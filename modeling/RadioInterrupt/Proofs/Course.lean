import RadioInterrupt.Drain
import RadioInterrupt.Driver
import RadioInterrupt.Proofs.Dispatch

/-!
# Courses of operations

A course is a dispatcher in use: operations are performed on it in any order, and a journal is kept
of what they did, the latest entry first.  Between them the bench may change in any way: causes are
latched, events posted, drivers commanded.

`Course.Invariant` asks a property to be kept by each single operation, and
`Course.Invariant.run` gives it to every course.  A drain needs no case of its own there, since it
is a sequence of dispatches with changes of the bench between them.
-/

namespace RadioInterrupt

inductive Operation : Type 1 where
  | register (request : Request)
  | install {δ β ε : Type} [Driver δ β ε] (driver : δ) (board : β)
  | setBuffer (buffer : Buffer)
  | takeBuffer
  | resetCounters
  | dispatch (event : Event)
  | drain (announce : Dispatcher.Announce)
  /-- Anything that happens on the bench and is not the dispatcher's doing. -/
  | arrange (change : Bench → Bench)

structure Dispatched where
  event : Event
  handler : Option Handler
  reports : List Report
  /-- The bytes of the buffer that was registered before. -/
  buffer : Option Bytes
  result : Except Unconfigured Outcome

def Dispatched.accepted (dispatched : Dispatched) : Option Frame :=
  dispatched.reports.head?.bind Report.frame?

inductive Entry where
  | registered (request : Request) (answer : RequestAnswer)
  | installed (requests : List Request) (succeeded : Bool)
  | bufferSet (buffer : Buffer) (bytes : Bytes) (back : Option Bytes)
  | bufferTaken (back : Option Bytes)
  | countersReset
  | dispatched (dispatched : Dispatched)

structure Course where
  dispatcher : Dispatcher
  bench : Bench
  journal : List Entry

def Dispatcher.observe (dispatcher : Dispatcher) (event : Event) (bench : Bench) : Dispatched where
  event
  handler := dispatcher.handler? event.slot
  reports := dispatcher.reports event bench
  buffer := dispatcher.inbox.registered
  result := (dispatcher.dispatch event bench).result

theorem Dispatcher.dispatcher_install {δ β ε : Type} [Driver δ β ε] (dispatcher : Dispatcher)
    (driver : δ) (board : β) (bench : Bench) :
    (dispatcher.install driver board bench).dispatcher =
      { dispatcher.cleared with
        toRegistry :=
          if (dispatcher.install driver board bench).result.isOk then
            (Registry.empty.performAll (Driver.requests driver board)).2.1
          else .empty } := by
  unfold install
  rcases Registry.empty.performAll (Driver.requests driver board) with ⟨answers, registry, messages⟩
  simp only
  rcases Driver.bringUp driver board answers _ with ⟨error | done, driver, bench⟩
  · rfl
  · rcases hslept : Driver.perform driver .sleep bench with ⟨error | done, driver, bench⟩
    · simp only [hslept]
      rfl
    · simp only [hslept]
      rfl

namespace Course

def start (region : Bytes) (bench : Bench) : Course :=
  ⟨{ inbox := { region } }, bench, []⟩

def register (course : Course) (request : Request) : Course :=
  let (answer, dispatcher, bench) := course.dispatcher.register request course.bench
  ⟨dispatcher, bench, .registered request answer :: course.journal⟩

def install {δ β ε : Type} [Driver δ β ε] (course : Course) (driver : δ) (board : β) : Course :=
  let run := course.dispatcher.install driver board course.bench
  ⟨run.dispatcher, run.bench,
    .installed (Driver.requests driver board) run.result.isOk :: course.journal⟩

def setBuffer (course : Course) (buffer : Buffer) : Course :=
  let inbox := course.dispatcher.inbox
  ⟨course.dispatcher.setBuffer buffer, course.bench,
    .bufferSet buffer (inbox.contents buffer) inbox.registered :: course.journal⟩

def takeBuffer (course : Course) : Course :=
  ⟨course.dispatcher.takeBuffer, course.bench,
    .bufferTaken course.dispatcher.inbox.registered :: course.journal⟩

def resetCounters (course : Course) : Course :=
  ⟨course.dispatcher.resetCounters, course.bench, .countersReset :: course.journal⟩

def dispatch (course : Course) (event : Event) : Course :=
  let run := course.dispatcher.dispatch event course.bench
  ⟨run.dispatcher, run.bench,
    .dispatched (course.dispatcher.observe event course.bench) :: course.journal⟩

def arrange (course : Course) (change : Bench → Bench) : Course :=
  { course with bench := change course.bench }

def drainUpTo (announce : Dispatcher.Announce) : Nat → Course → Course
  | 0, course => course
  | limit + 1, course =>
      match course.bench.tryNext with
      | (none, bench) => course.arrange fun _ => bench
      | (some event, bench) =>
          let result := (course.dispatcher.dispatch event bench).result
          drainUpTo announce limit
            (((course.arrange fun _ => bench).dispatch event).arrange
              (·.say (announce event result)))

def drain (course : Course) (announce : Dispatcher.Announce) : Course :=
  let run := course.dispatcher.drain course.bench announce
  ⟨run.dispatcher, run.bench, (drainUpTo announce Dispatcher.drainLimit course).journal⟩

def perform (course : Course) : Operation → Course
  | .register request => course.register request
  | @Operation.install _ _ _ _ driver board => course.install driver board
  | .setBuffer buffer => course.setBuffer buffer
  | .takeBuffer => course.takeBuffer
  | .resetCounters => course.resetCounters
  | .dispatch event => course.dispatch event
  | .drain announce => course.drain announce
  | .arrange change => course.arrange change

def run (course : Course) (operations : List Operation) : Course :=
  operations.foldl perform course

/-- A drain leaves what its single dispatches leave. -/
theorem drainUpTo_eq (announce : Dispatcher.Announce) (limit : Nat) (course : Course) :
    (drainUpTo announce limit course).dispatcher =
        (Dispatcher.drainUpTo announce limit course.dispatcher course.bench).dispatcher ∧
      (drainUpTo announce limit course).bench =
        (Dispatcher.drainUpTo announce limit course.dispatcher course.bench).bench := by
  induction limit generalizing course with
  | zero => exact ⟨rfl, rfl⟩
  | succ limit ih =>
      rw [drainUpTo, Dispatcher.drainUpTo]
      generalize course.bench.tryNext = next
      obtain ⟨found, bench⟩ := next
      cases found with
      | none => exact ⟨rfl, rfl⟩
      | some event => exact ih _

theorem exists_drain_eq (announce : Dispatcher.Announce) (course : Course) :
    ∃ messages, course.drain announce =
      (drainUpTo announce Dispatcher.drainLimit course).arrange (·.say messages) := by
  obtain ⟨hdispatcher, hbench⟩ := drainUpTo_eq announce Dispatcher.drainLimit course
  simp only [drain, Dispatcher.drain, arrange, hdispatcher, hbench]
  split
  · exact ⟨[], by rw [Bench.say_nil]⟩
  · exact ⟨_, rfl⟩

section Drain

variable {holds : Course → Prop}
  (dispatch : ∀ course event, holds course → holds (course.dispatch event))
  (arrange : ∀ course change, (change course.bench).chips = course.bench.chips →
    holds course → holds (course.arrange change))

include dispatch arrange

theorem drainUpTo_keeps (announce : Dispatcher.Announce) (limit : Nat) {course : Course}
    (h : holds course) : holds (drainUpTo announce limit course) := by
  induction limit generalizing course with
  | zero => exact h
  | succ limit ih =>
      have chips := course.bench.chips_tryNext
      rw [drainUpTo]
      generalize course.bench.tryNext = next at chips
      obtain ⟨found, bench⟩ := next
      have taken : holds (course.arrange fun _ => bench) := arrange course _ chips h
      cases found with
      | none => exact taken
      | some event => exact ih (arrange _ _ rfl (dispatch _ event taken))

theorem drain_keeps (announce : Dispatcher.Announce) {course : Course} (h : holds course) :
    holds (course.drain announce) := by
  obtain ⟨messages, same⟩ := exists_drain_eq announce course
  rw [same]
  exact arrange _ _ rfl (drainUpTo_keeps dispatch arrange announce Dispatcher.drainLimit h)

end Drain

/-! ## Invariants -/

structure Invariant (holds : Course → Prop) : Prop where
  register : ∀ course request, holds course → holds (course.register request)
  install : ∀ {δ β ε : Type} [Driver δ β ε] (course : Course) (driver : δ) (board : β),
    holds course → holds (course.install driver board)
  setBuffer : ∀ course buffer, holds course → holds (course.setBuffer buffer)
  takeBuffer : ∀ course, holds course → holds course.takeBuffer
  resetCounters : ∀ course, holds course → holds course.resetCounters
  dispatch : ∀ course event, holds course → holds (course.dispatch event)
  arrange : ∀ course change, holds course → holds (course.arrange change)

variable {holds : Course → Prop}

theorem Invariant.run (kept : Invariant holds) {course : Course} (h : holds course)
    (operations : List Operation) : holds (course.run operations) := by
  induction operations generalizing course with
  | nil => exact h
  | cons operation operations ih =>
      apply ih
      cases operation with
      | register request => exact kept.register course request h
      | install driver board => exact kept.install course driver board h
      | setBuffer buffer => exact kept.setBuffer course buffer h
      | takeBuffer => exact kept.takeBuffer course h
      | resetCounters => exact kept.resetCounters course h
      | dispatch event => exact kept.dispatch course event h
      | drain announce =>
          exact drain_keeps kept.dispatch (fun course change _ => kept.arrange course change)
            announce h
      | arrange change => exact kept.arrange course change h

end Course

end RadioInterrupt
