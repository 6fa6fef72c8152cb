import RadioInterrupt.Proofs.Variation
import RadioInterrupt.Proofs.Watching

/-!
# Courses side by side

Two courses that start alike are given operations that are the same but for a variation: requests
for slots that no event reaches are left out of one or added to it, events take the place of others.
Operation by operation they stay alike, in what the dispatcher recorded, in the handlers that an
event can reach, on the bench and in the journal, and so whatever comes next is answered alike.
-/

namespace RadioInterrupt

variable {v : Variation}

/-! ## Watches during a run -/

theorem Routine.Varies.shown_moments {Renames : Event → Event → Prop} {routine other : Routine}
    (h : routine.Varies Renames other) (recorder : Recorder) {bench benchOther : Bench}
    (hbench : bench.Varies Renames benchOther) (made : List Report) :
    (other.moments made recorder benchOther).map Moment.shown =
      (routine.moments made recorder bench).map Moment.shown := by
  induction h generalizing recorder bench benchOther made with
  | done => rfl
  | report one later ih => exact List.cons_eq_cons.mpr ⟨rfl, ih _ (hbench.say _ _) _⟩
  | look later ih => exact List.cons_eq_cons.mpr ⟨rfl, ih _ recorder hbench made⟩
  | post sender renamed later ih =>
      obtain ⟨answered, posted⟩ := hbench.post sender renamed
      exact List.cons_eq_cons.mpr ⟨rfl, ih _ _ answered recorder posted made⟩
  | note noted later ih =>
      exact List.cons_eq_cons.mpr ⟨rfl, ih recorder (hbench.note noted) made⟩

theorem Dispatcher.Varies.shown_moments {dispatcher other : Dispatcher} {bench benchOther : Bench}
    {event eventOther : Event} (h : dispatcher.Varies v other)
    (hbench : bench.Varies v.Renames benchOther) (renamed : v.Renames event eventOther) :
    (other.moments eventOther benchOther).map Moment.shown =
      (dispatcher.moments event bench).map Moment.shown := by
  have found := h.registry event.slot (v.compares_slot event)
  rw [moments, moments, v.slot_eq renamed, h.recorder_begin]
  generalize dispatcher.handler? event.slot = handler at found
  generalize other.handler? event.slot = handlerOther at found
  cases found with
  | none => rfl
  | some replaced =>
      obtain ⟨routine, started⟩ := (v.varies replaced).start hbench v.renames_refl
      exact routine.shown_moments _ started []

/-! ## Operations and entries -/

namespace Operation

def isHidden (v : Variation) : Operation → Bool
  | .register request => request.isHidden v
  | _ => false

inductive Varies (v : Variation) : Operation → Operation → Prop
  | register {request other : Request} (made : request.Varies v other) :
      Varies v (.register request) (.register other)
  | install {δ δ' β β' ε : Type} [Driver δ β ε] [Driver δ' β' ε] {driver : δ} {board : β}
      {driverOther : δ'} {boardOther : β'}
      (drivers : v.Drivers driver board driverOther boardOther) :
      Varies v (.install driver board) (.install driverOther boardOther)
  | setBuffer (buffer : Buffer) : Varies v (.setBuffer buffer) (.setBuffer buffer)
  | takeBuffer : Varies v .takeBuffer .takeBuffer
  | resetCounters : Varies v .resetCounters .resetCounters
  | dispatch {event other : Event} (renamed : v.Renames event other) :
      Varies v (.dispatch event) (.dispatch other)
  | drain (announce : Dispatcher.Announce) : Varies v (.drain announce) (.drain announce)
  | arrange {change other : Bench → Bench} (kept : ∀ bench benchOther,
      bench.Varies v.Renames benchOther → (change bench).Varies v.Renames (other benchOther)) :
      Varies v (.arrange change) (.arrange other)

theorem varies_post (sender : Nat) {event other : Event} (renamed : v.Renames event other) :
    Varies v (.arrange fun bench => (bench.post sender event).2)
      (.arrange fun bench => (bench.post sender other).2) :=
  .arrange fun _ _ h => (h.post sender renamed).2

end Operation

structure Dispatched.Varies (v : Variation) (made other : Dispatched) : Prop where
  event : v.Renames made.event other.event
  handler : Option.Rel v.Replaces made.handler other.handler
  reports : other.reports = made.reports
  buffer : other.buffer = made.buffer
  result : v.Results made.result other.result

namespace Entry

def isHidden (v : Variation) : Entry → Bool
  | .registered request _ => request.isHidden v
  | _ => false

inductive Varies (v : Variation) : Entry → Entry → Prop
  | registered {request other : Request} (made : request.Varies v other)
      (answer : RequestAnswer) :
      Varies v (.registered request answer) (.registered other answer)
  | installed {requests others : List Request}
      (made : Matched (·.isHidden v = true) (·.Varies v ·) requests others) (succeeded : Bool) :
      Varies v (.installed requests succeeded) (.installed others succeeded)
  | bufferSet (buffer : Buffer) (bytes : Bytes) (back : Option Bytes) :
      Varies v (.bufferSet buffer bytes back) (.bufferSet buffer bytes back)
  | bufferTaken (back : Option Bytes) : Varies v (.bufferTaken back) (.bufferTaken back)
  | countersReset : Varies v .countersReset .countersReset
  | dispatched {made other : Dispatched} (h : made.Varies v other) :
      Varies v (.dispatched made) (.dispatched other)

/-- The journals are the same, but for hidden entries and what varies. -/
abbrev Parallel (v : Variation) : List Entry → List Entry → Prop :=
  Matched (·.isHidden v = true) (·.Varies v ·)

end Entry

/-! ## Courses -/

structure Course.Varies (v : Variation) (course other : Course) : Prop where
  dispatcher : course.dispatcher.Varies v other.dispatcher
  bench : course.bench.Varies v.Renames other.bench
  journal : Entry.Parallel v course.journal other.journal

namespace Course.Varies

variable {course other : Course}

theorem refl (v : Variation) (course : Course) (fresh : course.journal = []) :
    course.Varies v course where
  dispatcher := ⟨rfl, .refl v _⟩
  bench := .refl v.renames_refl _
  journal := by
    rw [fresh]
    exact .nil

theorem hide_left (h : course.Varies v other) {operation : Operation}
    (hidden : operation.isHidden v = true) : (course.perform operation).Varies v other := by
  cases operation with
  | register request =>
      have registry := h.dispatcher.registry.hide_left hidden
      exact ⟨⟨h.dispatcher.recorder, registry⟩, ⟨h.bench.chips, h.bench.queue, h.bench.ran⟩,
        .left hidden h.journal⟩
  | install | setBuffer | takeBuffer | resetCounters | dispatch | drain | arrange => cases hidden

theorem hide_right (h : course.Varies v other) {operation : Operation}
    (hidden : operation.isHidden v = true) : course.Varies v (other.perform operation) := by
  cases operation with
  | register request =>
      have registry := h.dispatcher.registry.hide_right hidden
      exact ⟨⟨h.dispatcher.recorder, registry⟩, ⟨h.bench.chips, h.bench.queue, h.bench.ran⟩,
        .right hidden h.journal⟩
  | install | setBuffer | takeBuffer | resetCounters | dispatch | drain | arrange => cases hidden

theorem arrange (h : course.Varies v other) {change changeOther : Bench → Bench}
    (kept : (change course.bench).Varies v.Renames (changeOther other.bench)) :
    (course.arrange change).Varies v (other.arrange changeOther) :=
  ⟨h.dispatcher, kept, h.journal⟩

theorem say (h : course.Varies v other) (messages others : List Message) :
    (course.arrange (·.say messages)).Varies v (other.arrange (·.say others)) :=
  h.arrange (h.bench.say messages others)

theorem dispatch (h : course.Varies v other) {event eventOther : Event}
    (renamed : v.Renames event eventOther) :
    (course.dispatch event).Varies v (other.dispatch eventOther) := by
  obtain ⟨reports, run⟩ := h.dispatcher.dispatch h.bench renamed
  refine ⟨run.dispatcher, run.bench, .both (.dispatched ?_) h.journal⟩
  refine ⟨renamed, ?_, reports, ?_, run.result⟩
  · change Option.Rel v.Replaces (course.dispatcher.handler? event.slot)
      (other.dispatcher.handler? eventOther.slot)
    rw [v.slot_eq renamed]
    exact h.dispatcher.registry event.slot (v.compares_slot event)
  · exact congrArg (fun recorder : Recorder => recorder.inbox.registered) h.dispatcher.recorder

theorem drainUpTo (h : course.Varies v other) (announce : Dispatcher.Announce) (limit : Nat) :
    (Course.drainUpTo announce limit course).Varies v (Course.drainUpTo announce limit other) ∧
      List.Forall₂ (fun ended endedOther => v.Renames ended.1 endedOther.1 ∧
          v.Results ended.2 endedOther.2)
        (Dispatcher.drainUpTo announce limit course.dispatcher course.bench).outcomes
        (Dispatcher.drainUpTo announce limit other.dispatcher other.bench).outcomes := by
  induction limit generalizing course other with
  | zero => exact ⟨h, .nil⟩
  | succ limit ih =>
      obtain ⟨found, left⟩ := h.bench.tryNext
      rw [Course.drainUpTo, Course.drainUpTo, Dispatcher.drainUpTo, Dispatcher.drainUpTo]
      generalize course.bench.tryNext = next at found left
      generalize other.bench.tryNext = nextOther at found left
      obtain ⟨event, bench⟩ := next
      obtain ⟨eventOther, benchOther⟩ := nextOther
      have taken : (course.arrange fun _ => bench).Varies v
          (other.arrange fun _ => benchOther) := h.arrange left
      cases found with
      | none => exact ⟨taken, .nil⟩
      | some renamed =>
          have dispatched := taken.dispatch renamed
          obtain ⟨-, run⟩ := h.dispatcher.dispatch left renamed
          obtain ⟨later, outcomes⟩ := ih (dispatched.say _ _)
          exact ⟨later, .cons ⟨renamed, run.result⟩ outcomes⟩

theorem perform (h : course.Varies v other) {operation operationOther : Operation}
    (varied : operation.Varies v operationOther) :
    (course.perform operation).Varies v (other.perform operationOther) := by
  have recorder := h.dispatcher.recorder
  cases varied with
  | @register request requestOther made =>
      obtain ⟨answer, dispatcher, bench⟩ := h.dispatcher.register h.bench made
      have entry : (Entry.registered request
          (course.dispatcher.register request course.bench).1).Varies v
            (.registered requestOther (other.dispatcher.register requestOther other.bench).1) := by
        rw [answer]
        exact .registered made _
      exact ⟨dispatcher, bench, .both entry h.journal⟩
  | install drivers =>
      have run := h.dispatcher.install h.bench drivers
      refine ⟨run.dispatcher, run.bench, .both ?_ h.journal⟩
      rw [run.result]
      exact .installed drivers.requests _
  | setBuffer buffer =>
      have inbox := congrArg Recorder.inbox recorder
      refine ⟨⟨?_, h.dispatcher.registry⟩, h.bench, .both ?_ h.journal⟩
      · exact congrArg (fun recorder : Recorder =>
          { recorder with inbox := recorder.inbox.set buffer }) recorder
      · rw [inbox]
        exact .bufferSet buffer _ _
  | takeBuffer =>
      have inbox := congrArg Recorder.inbox recorder
      refine ⟨⟨?_, h.dispatcher.registry⟩, h.bench, .both ?_ h.journal⟩
      · exact congrArg (fun recorder : Recorder =>
          { recorder with inbox := recorder.inbox.clear }) recorder
      · rw [inbox]
        exact .bufferTaken _
  | resetCounters =>
      refine ⟨⟨?_, h.dispatcher.registry⟩, h.bench, .both .countersReset h.journal⟩
      exact congrArg (fun recorder : Recorder => { recorder with counters := {} }) recorder
  | dispatch renamed => exact h.dispatch renamed
  | drain announce =>
      obtain ⟨messages, same⟩ := exists_drain_eq announce course
      obtain ⟨messagesOther, sameOther⟩ := exists_drain_eq announce other
      obtain ⟨drained, -⟩ := h.drainUpTo announce Dispatcher.drainLimit
      rw [Course.perform, Course.perform, same, sameOther]
      exact drained.say _ _
  | arrange kept => exact h.arrange (kept _ _ h.bench)

theorem run (h : course.Varies v other) {operations others : List Operation}
    (matched : Matched (·.isHidden v = true) (·.Varies v ·) operations others) :
    (course.run operations).Varies v (other.run others) := by
  induction matched generalizing course other with
  | nil => exact h
  | left hidden rest ih => exact ih (h.hide_left hidden)
  | right hidden rest ih => exact ih (h.hide_right hidden)
  | both first rest ih => exact ih (h.perform first)

end Course.Varies

/-! ## What comes next -/

theorem Bench.Varies.pollOnce {Renames : Event → Event → Prop} {bench other : Bench}
    (h : bench.Varies Renames other) :
    (Session.Dispatch.pollOnce bench).1.Varies Renames (Session.Dispatch.pollOnce other).1 := by
  have queues := h.queue
  rw [Session.Dispatch.pollOnce, Session.Dispatch.pollOnce]
  generalize bench.queue = queue at queues
  generalize other.queue = queueOther at queues
  cases queues with
  | none => exact .ready .none
  | some pair => exact pair.poll.1

structure Course.RespondsAlike (v : Variation) (course other : Course) : Prop where
  isConfigured : ∀ event eventOther, v.Renames event eventOther →
    other.dispatcher.isConfigured eventOther = course.dispatcher.isConfigured event
  register : ∀ request requestOther : Request, request.Varies v requestOther →
    (other.dispatcher.register requestOther other.bench).1 =
      (course.dispatcher.register request course.bench).1
  install : ∀ {δ δ' β β' ε : Type} [Driver δ β ε] [Driver δ' β' ε] {driver : δ} {board : β}
    {driverOther : δ'} {boardOther : β'}, v.Drivers driver board driverOther boardOther →
    (other.dispatcher.install driverOther boardOther other.bench).result =
      (course.dispatcher.install driver board course.bench).result
  dispatch : ∀ event eventOther, v.Renames event eventOther →
    v.Results (course.dispatcher.dispatch event course.bench).result
      (other.dispatcher.dispatch eventOther other.bench).result
  reports : ∀ event eventOther, v.Renames event eventOther →
    other.dispatcher.reports eventOther other.bench = course.dispatcher.reports event course.bench
  shown : ∀ event eventOther, v.Renames event eventOther →
    (other.dispatcher.moments eventOther other.bench).map Moment.shown =
      (course.dispatcher.moments event course.bench).map Moment.shown
  drain : ∀ announce, List.Forall₂ (fun ended endedOther =>
      v.Renames ended.1 endedOther.1 ∧ v.Results ended.2 endedOther.2)
    (course.dispatcher.drain course.bench announce).outcomes
    (other.dispatcher.drain other.bench announce).outcomes
  post : ∀ sender event eventOther, v.Renames event eventOther →
    PostAnswer.Varies event eventOther (course.bench.post sender event).1
      (other.bench.post sender eventOther).1
  tryNext : Option.Rel v.Renames course.bench.tryNext.1 other.bench.tryNext.1
  poll : (Session.Dispatch.pollOnce course.bench).1.Varies v.Renames
    (Session.Dispatch.pollOnce other.bench).1

theorem Course.Varies.respondsAlike {course other : Course} (h : course.Varies v other) :
    course.RespondsAlike v other where
  isConfigured _ _ renamed := h.dispatcher.isConfigured renamed
  register _ _ made := (h.dispatcher.register h.bench made).1
  install drivers := (h.dispatcher.install h.bench drivers).result
  dispatch _ _ renamed := (h.dispatcher.dispatch h.bench renamed).2.result
  reports _ _ renamed := (h.dispatcher.dispatch h.bench renamed).1
  shown _ _ renamed := h.dispatcher.shown_moments h.bench renamed
  drain announce := by
    obtain ⟨messages, same⟩ :=
      Dispatcher.exists_drain_eq announce course.dispatcher course.bench
    obtain ⟨messagesOther, sameOther⟩ :=
      Dispatcher.exists_drain_eq announce other.dispatcher other.bench
    rw [same, sameOther]
    exact (h.drainUpTo announce Dispatcher.drainLimit).2
  post sender _ _ renamed := (h.bench.post sender renamed).1
  tryNext := h.bench.tryNext.1
  poll := h.bench.pollOnce

end RadioInterrupt
