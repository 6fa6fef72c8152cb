import RadioInterrupt.Proofs.Installation
import RadioInterrupt.Proofs.Twins
import RadioInterrupt.Proofs.Watching
import RadioInterrupt.SimulatedRadio

/-!
# Buffers and counters do not interfere

Two courses that start alike and differ in calls that register and take buffers go on as twins: the
same requests are answered alike, the same events reach the same handlers in the same runs, and end
in the same outcomes.  Two that differ in resets of the counters agree on everything else, buffers
and log included.
-/

namespace RadioInterrupt

variable {aspect : Aspect}

/-! ## Watches during a run -/

theorem Routine.shown_moments_twins (routine : Routine) {recorder recorderOther : Recorder}
    {bench benchOther : Bench} (hrecorder : recorder.Twins aspect recorderOther)
    (hbench : bench.Twins aspect benchOther) (made : List Report) :
    (routine.moments made recorderOther benchOther).map Moment.shown =
      (routine.moments made recorder bench).map Moment.shown := by
  induction routine generalizing made recorder recorderOther bench benchOther with
  | done => exact List.cons_eq_cons.mpr ⟨hrecorder.visible, rfl⟩
  | report one next ih =>
      obtain ⟨accepted, logged⟩ := hrecorder.accept one
      exact List.cons_eq_cons.mpr ⟨hrecorder.visible, ih accepted (hbench.say logged) _⟩
  | look next ih =>
      refine List.cons_eq_cons.mpr ⟨hrecorder.visible, ?_⟩
      rw [hrecorder.visible]
      exact ih _ hrecorder hbench made
  | post sender event next ih =>
      obtain ⟨answer, posted⟩ := hbench.post sender event
      refine List.cons_eq_cons.mpr ⟨hrecorder.visible, ?_⟩
      rw [answer]
      exact ih _ hrecorder posted made
  | note entry next ih =>
      exact List.cons_eq_cons.mpr ⟨hrecorder.visible, ih hrecorder (hbench.note entry) made⟩

theorem Dispatcher.Twins.shown_moments {dispatcher other : Dispatcher} {bench benchOther : Bench}
    (h : dispatcher.Twins aspect other) (hbench : bench.Twins aspect benchOther) (event : Event) :
    (other.moments event benchOther).map Moment.shown =
      (dispatcher.moments event bench).map Moment.shown := by
  rw [moments, moments, h.handler?]
  cases dispatcher.handler? event.slot with
  | none => rfl
  | some handler =>
      obtain ⟨routine, started⟩ := handler.start_twins hbench
      rw [Option.elim_some, Option.elim_some, routine]
      exact Routine.shown_moments_twins _ h.begin.toTwins started []

/-! ## Drivers -/

structure CallTwins (aspect : Aspect) {δ ε : Type} (call other : Except ε Unit × δ × Bench) :
    Prop where
  result : other.1 = call.1
  driver : other.2.1 = call.2.1
  bench : call.2.2.Twins aspect other.2.2

/-- A driver that does not tell twin benches apart. -/
class KeepsTwins (aspect : Aspect) (δ : Type) {β ε : Type} [Driver δ β ε] : Prop where
  bringUp : ∀ (driver : δ) (board : β) answers {bench other : Bench}, bench.Twins aspect other →
    CallTwins aspect (Driver.bringUp driver board answers bench)
      (Driver.bringUp driver board answers other)
  perform : ∀ (driver : δ) command {bench other : Bench}, bench.Twins aspect other →
    CallTwins aspect (Driver.perform driver command bench) (Driver.perform driver command other)

instance keepsTwins_counters {δ β ε : Type} [Driver δ β ε] : KeepsTwins .counters δ where
  bringUp driver board answers bench other h := by
    rw [h.same rfl]
    exact ⟨rfl, rfl, .refl _ _⟩
  perform driver command bench other h := by
    rw [h.same rfl]
    exact ⟨rfl, rfl, .refl _ _⟩

theorem ScriptedDriver.noteAnswers_twins (answers : List RequestAnswer) {bench other : Bench}
    (h : bench.Twins aspect other) :
    (noteAnswers answers bench).Twins aspect (noteAnswers answers other) := by
  induction answers generalizing bench other with
  | nil => exact h
  | cons answer answers ih => exact ih (h.note (.registered answer))

instance : KeepsTwins aspect ScriptedDriver where
  bringUp _ _ answers _ _ h :=
    ⟨rfl, rfl, (ScriptedDriver.noteAnswers_twins answers h).note .broughtUp⟩
  perform _ command _ _ h := ⟨rfl, rfl, h.note (.commanded command)⟩

instance : KeepsTwins aspect SimulatedRadio where
  bringUp radio board answers bench other h := by
    change CallTwins aspect ((radio.bringUp board bench).1, radio, (radio.bringUp board bench).2)
      ((radio.bringUp board other).1, radio, (radio.bringUp board other).2)
    rw [SimulatedRadio.bringUp, SimulatedRadio.bringUp, h.chips]
    cases radio.responsive with
    | true => exact ⟨rfl, rfl, (h.setChip _ _).say fun _ => rfl⟩
    | false => exact ⟨rfl, rfl, h⟩
  perform radio command bench other h := by
    change CallTwins aspect
      ((radio.perform command bench).1, radio, (radio.perform command bench).2)
      ((radio.perform command other).1, radio, (radio.perform command other).2)
    rw [SimulatedRadio.perform, SimulatedRadio.perform, h.chips]
    cases SimulatedRadio.command (bench.chips radio.chip) command with
    | error error => exact ⟨rfl, rfl, h⟩
    | ok chip => exact ⟨rfl, rfl, h.setChip _ _⟩

structure InstallRun.Twins {δ ε : Type} (aspect : Aspect) (run other : InstallRun δ ε) : Prop where
  result : other.result = run.result
  dispatcher : run.dispatcher.Twins aspect other.dispatcher
  bench : run.bench.Twins aspect other.bench

namespace Dispatcher.Twins

variable {dispatcher other : Dispatcher} {bench benchOther : Bench}

theorem cleared (h : dispatcher.Twins aspect other) (registry : Registry) :
    Dispatcher.Twins aspect { dispatcher.cleared with toRegistry := registry }
      { other.cleared with toRegistry := registry } where
  outcome := h.outcome
  info := h.info
  counters := h.counters
  inbox counters := congrArg Inbox.clear (h.inbox counters)
  registry := rfl

theorem install {δ β ε : Type} [Driver δ β ε] [KeepsTwins aspect δ]
    (h : dispatcher.Twins aspect other) (hbench : bench.Twins aspect benchOther) (driver : δ)
    (board : β) :
    (dispatcher.install driver board bench).Twins aspect
      (other.install driver board benchOther) := by
  have up : CallTwins aspect (dispatcher.bringingUp driver board bench)
      (other.bringingUp driver board benchOther) := by
    refine KeepsTwins.bringUp driver board _ ((hbench.say fun counters => ?_).say fun _ => rfl)
    rw [h.inbox counters]
  have slept : CallTwins aspect (dispatcher.fallingAsleep driver board bench)
      (other.fallingAsleep driver board benchOther) := by
    rw [fallingAsleep, fallingAsleep, up.driver]
    exact KeepsTwins.perform _ _ up.bench
  simp only [install_eq, up.result, slept.result]
  cases (dispatcher.bringingUp driver board bench).1 with
  | error error => exact ⟨rfl, h.cleared .empty, up.bench.say fun _ => rfl⟩
  | ok done =>
      cases (dispatcher.fallingAsleep driver board bench).1 with
      | error error => exact ⟨rfl, h.cleared .empty, slept.bench.say fun _ => rfl⟩
      | ok done => exact ⟨rfl, h.cleared _, slept.bench.say fun _ => rfl⟩

theorem register (h : dispatcher.Twins aspect other) (hbench : bench.Twins aspect benchOther)
    (request : Request) :
    (other.register request benchOther).1 = (dispatcher.register request bench).1 ∧
      (dispatcher.register request bench).2.1.Twins aspect
        (other.register request benchOther).2.1 ∧
      (dispatcher.register request bench).2.2.Twins aspect
        (other.register request benchOther).2.2 := by
  rw [Dispatcher.register, Dispatcher.register, h.registry]
  exact ⟨rfl, ⟨⟨h.outcome, h.info, h.counters, h.inbox⟩, rfl⟩, hbench.say fun _ => rfl⟩

end Dispatcher.Twins

/-! ## Courses -/

def Operation.concerns (aspect : Aspect) (operation : Operation) : Bool :=
  match aspect, operation with
  | .buffers, .setBuffer _ => true
  | .buffers, .takeBuffer => true
  | .counters, .resetCounters => true
  | _, _ => false

def Operation.KeepsTwins (aspect : Aspect) : Operation → Prop
  | @Operation.install δ _ _ _ _ _ => RadioInterrupt.KeepsTwins aspect δ
  | .arrange change => ∀ bench other, bench.Twins aspect other →
      (change bench).Twins aspect (change other)
  | _ => True

theorem Operation.keepsTwins_counters (operation : Operation) :
    operation.KeepsTwins .counters := by
  cases operation with
  | install driver board => exact RadioInterrupt.keepsTwins_counters
  | arrange change =>
      intro bench other h
      rw [h.same rfl]
      exact .refl _ _
  | register | setBuffer | takeBuffer | resetCounters | dispatch | drain => trivial

namespace Entry

/-- What the entry tells that twins agree on. -/
def shown? (aspect : Aspect) (entry : Entry) : Option Entry :=
  match aspect, entry with
  | .buffers, .bufferSet _ _ _ => none
  | .buffers, .bufferTaken _ => none
  | .buffers, .dispatched made => some (.dispatched { made with buffer := none })
  | .counters, .countersReset => none
  | _, entry => some entry

def shown (aspect : Aspect) (journal : List Entry) : List Entry :=
  journal.filterMap (shown? aspect)

theorem shown_cons {entry other : Entry} {journal others : List Entry}
    (first : other.shown? aspect = entry.shown? aspect)
    (earlier : shown aspect others = shown aspect journal) :
    shown aspect (other :: others) = shown aspect (entry :: journal) := by
  rw [shown, shown] at earlier ⊢
  rw [List.filterMap_cons, List.filterMap_cons, first, earlier]

end Entry

namespace Course

structure Twins (aspect : Aspect) (course other : Course) : Prop where
  dispatcher : course.dispatcher.Twins aspect other.dispatcher
  bench : course.bench.Twins aspect other.bench
  journal : Entry.shown aspect other.journal = Entry.shown aspect course.journal

namespace Twins

variable {course other another : Course}

theorem symm (h : course.Twins aspect other) : other.Twins aspect course :=
  ⟨h.dispatcher.symm, h.bench.symm, h.journal.symm⟩

theorem trans (h : course.Twins aspect other) (next : other.Twins aspect another) :
    course.Twins aspect another :=
  ⟨h.dispatcher.trans next.dispatcher, h.bench.trans next.bench, next.journal.trans h.journal⟩

theorem hide (h : course.Twins aspect other) {operation : Operation}
    (hidden : operation.concerns aspect = true) :
    (course.perform operation).Twins aspect other := by
  have d := h.dispatcher
  cases aspect with
  | buffers =>
      cases operation with
      | setBuffer | takeBuffer =>
          exact ⟨⟨⟨d.outcome, d.info, d.counters, nofun⟩, d.registry⟩, h.bench, h.journal⟩
      | register | install | resetCounters | dispatch | drain | arrange => cases hidden
  | counters =>
      cases operation with
      | resetCounters =>
          exact ⟨⟨⟨d.outcome, d.info, nofun, d.inbox⟩, d.registry⟩, h.bench, h.journal⟩
      | register | install | setBuffer | takeBuffer | dispatch | drain | arrange => cases hidden

theorem arrange (h : course.Twins aspect other) {change changeOther : Bench → Bench}
    (kept : (change course.bench).Twins aspect (changeOther other.bench)) :
    (course.arrange change).Twins aspect (other.arrange changeOther) :=
  ⟨h.dispatcher, kept, h.journal⟩

theorem dispatch (h : course.Twins aspect other) (event : Event) :
    (course.dispatch event).Twins aspect (other.dispatch event) := by
  obtain ⟨reports, run⟩ := h.dispatcher.dispatch h.bench event
  refine ⟨run.dispatcher, run.bench, Entry.shown_cons ?_ h.journal⟩
  have handler := h.dispatcher.handler? event.slot
  have result := run.result
  cases aspect with
  | buffers => simp only [Entry.shown?, Dispatcher.observe, handler, reports, result]
  | counters =>
      have inbox := h.dispatcher.inbox rfl
      simp only [Entry.shown?, Dispatcher.observe, handler, reports, result, inbox]

theorem drainUpTo (h : course.Twins aspect other) (announce : Dispatcher.Announce)
    (limit : Nat) :
    (Course.drainUpTo announce limit course).Twins aspect
      (Course.drainUpTo announce limit other) := by
  induction limit generalizing course other with
  | zero => exact h
  | succ limit ih =>
      obtain ⟨found, left⟩ := h.bench.tryNext
      rw [Course.drainUpTo, Course.drainUpTo]
      generalize course.bench.tryNext = next at found left
      generalize other.bench.tryNext = nextOther at found left
      obtain ⟨event, bench⟩ := next
      obtain ⟨eventOther, benchOther⟩ := nextOther
      obtain rfl : eventOther = event := found
      have taken : (course.arrange fun _ => bench).Twins aspect
          (other.arrange fun _ => benchOther) := h.arrange left
      cases eventOther with
      | none => exact taken
      | some event =>
          have result := (h.dispatcher.dispatch left event).2.result
          have dispatched := taken.dispatch event
          exact ih (dispatched.arrange (dispatched.bench.say fun _ =>
            congrArg (announce event) result))

theorem perform (h : course.Twins aspect other) {operation : Operation}
    (keeps : operation.KeepsTwins aspect) :
    (course.perform operation).Twins aspect (other.perform operation) := by
  have d := h.dispatcher
  cases operation with
  | register request =>
      obtain ⟨answer, dispatcher, bench⟩ := d.register h.bench request
      refine ⟨dispatcher, bench, Entry.shown_cons ?_ h.journal⟩
      exact congrArg (fun answer => (Entry.registered request answer).shown? aspect) answer
  | install driver board =>
      have : RadioInterrupt.KeepsTwins aspect _ := keeps
      have run := d.install h.bench driver board
      refine ⟨run.dispatcher, run.bench, Entry.shown_cons ?_ h.journal⟩
      exact congrArg (fun result => (Entry.installed _ result.isOk).shown? aspect) run.result
  | setBuffer buffer =>
      refine ⟨⟨⟨d.outcome, d.info, d.counters, fun counters => ?_⟩, d.registry⟩, h.bench,
        Entry.shown_cons ?_ h.journal⟩
      · exact congrArg (·.set buffer) (d.inbox counters)
      · cases aspect with
        | buffers => rfl
        | counters => rw [d.inbox rfl]
  | takeBuffer =>
      refine ⟨⟨⟨d.outcome, d.info, d.counters, fun counters => ?_⟩, d.registry⟩, h.bench,
        Entry.shown_cons ?_ h.journal⟩
      · exact congrArg Inbox.clear (d.inbox counters)
      · cases aspect with
        | buffers => rfl
        | counters => rw [d.inbox rfl]
  | resetCounters =>
      exact ⟨⟨⟨d.outcome, d.info, fun _ => rfl, d.inbox⟩, d.registry⟩, h.bench,
        Entry.shown_cons rfl h.journal⟩
  | dispatch event => exact h.dispatch event
  | drain announce =>
      have run := d.drain h.bench announce
      exact ⟨run.dispatcher, run.bench, (h.drainUpTo announce Dispatcher.drainLimit).journal⟩
  | arrange change => exact h.arrange (keeps _ _ h.bench)

theorem run (h : course.Twins aspect other) {operations : List Operation}
    (keeps : ∀ operation ∈ operations, operation.KeepsTwins aspect) :
    (course.run operations).Twins aspect
      (other.run (operations.filter (!·.concerns aspect))) := by
  induction operations generalizing course other with
  | nil => exact h
  | cons operation operations ih =>
      have later : ∀ operation ∈ operations, operation.KeepsTwins aspect :=
        fun other h => keeps other (List.mem_cons_of_mem _ h)
      cases hidden : operation.concerns aspect with
      | true =>
          rw [List.filter_cons_of_neg (by simp [hidden])]
          exact ih (h.hide hidden) later
      | false =>
          rw [List.filter_cons_of_pos (by simp [hidden])]
          exact ih (h.perform (keeps operation List.mem_cons_self)) later

end Twins

structure AnswersAlike (aspect : Aspect) (course other : Course) : Prop where
  isConfigured : ∀ event,
    other.dispatcher.isConfigured event = course.dispatcher.isConfigured event
  register : ∀ request, (other.dispatcher.register request other.bench).1 =
    (course.dispatcher.register request course.bench).1
  install : ∀ {δ β ε : Type} [Driver δ β ε] [KeepsTwins aspect δ] (driver : δ) (board : β),
    (other.dispatcher.install driver board other.bench).result =
      (course.dispatcher.install driver board course.bench).result
  reports : ∀ event, other.dispatcher.reports event other.bench =
    course.dispatcher.reports event course.bench
  shown : ∀ event, (other.dispatcher.moments event other.bench).map Moment.shown =
    (course.dispatcher.moments event course.bench).map Moment.shown
  dispatch : ∀ event, (other.dispatcher.dispatch event other.bench).result =
    (course.dispatcher.dispatch event course.bench).result
  drain : ∀ announce, (other.dispatcher.drain other.bench announce).outcomes =
    (course.dispatcher.drain course.bench announce).outcomes

theorem Twins.answersAlike {course other : Course} (h : course.Twins aspect other) :
    course.AnswersAlike aspect other where
  isConfigured event := by
    rw [Dispatcher.isConfigured, Dispatcher.isConfigured, h.dispatcher.handler?]
  register request := (h.dispatcher.register h.bench request).1
  install driver board := (h.dispatcher.install h.bench driver board).result
  reports event := (h.dispatcher.dispatch h.bench event).1
  shown event := h.dispatcher.shown_moments h.bench event
  dispatch event := (h.dispatcher.dispatch h.bench event).2.result
  drain announce := (h.dispatcher.drain h.bench announce).outcomes

theorem twins_of_filter (course : Course) {left right : List Operation}
    (same : left.filter (!·.concerns aspect) = right.filter (!·.concerns aspect))
    (keeps : ∀ operation ∈ left ++ right, operation.KeepsTwins aspect) :
    (course.run left).Twins aspect (course.run right) := by
  have itself : course.Twins aspect course :=
    ⟨⟨⟨rfl, rfl, fun _ => rfl, fun _ => rfl⟩, rfl⟩, .refl _ _, rfl⟩
  have one := itself.run fun operation h => keeps operation (List.mem_append_left _ h)
  have other := itself.run fun operation h => keeps operation (List.mem_append_right _ h)
  rw [← same] at other
  exact one.trans other.symm

/-- Two runs of operations from one course, which are the same but for calls that register and take
buffers: they agree on outcome, description, tables, chips, queue, notes, on every entry of the
journal but those of the calls, on all counters but the two that tell how frames fitted, and on the
answers to whatever comes next.  Two which are the same but for resets agree on everything but the
counters and the entries of the resets. -/
theorem buffers_and_counters_do_not_interfere (course : Course) (left right : List Operation) :
    let one := course.run left
    let other := course.run right
    (left.filter (!·.concerns .buffers) = right.filter (!·.concerns .buffers) →
      (∀ operation ∈ left ++ right, operation.KeepsTwins .buffers) →
      (other.dispatcher.outcome = one.dispatcher.outcome ∧
        other.dispatcher.info = one.dispatcher.info ∧
        other.dispatcher.counters.withoutFit = one.dispatcher.counters.withoutFit ∧
        other.dispatcher.toRegistry = one.dispatcher.toRegistry) ∧
      (other.bench.chips = one.bench.chips ∧ other.bench.queue = one.bench.queue ∧
        other.bench.notes = one.bench.notes) ∧
      Entry.shown .buffers other.journal = Entry.shown .buffers one.journal ∧
      one.AnswersAlike .buffers other) ∧
    (left.filter (!·.concerns .counters) = right.filter (!·.concerns .counters) →
      other.dispatcher.resetCounters = one.dispatcher.resetCounters ∧
      other.bench = one.bench ∧
      Entry.shown .counters other.journal = Entry.shown .counters one.journal ∧
      one.AnswersAlike .counters other) := by
  intro one other
  constructor
  · intro same keeps
    have h : one.Twins .buffers other := course.twins_of_filter same keeps
    have d := h.dispatcher
    exact ⟨⟨d.outcome, d.info, d.counters rfl, d.registry⟩,
      ⟨h.bench.chips, h.bench.queue, h.bench.notes⟩, h.journal, h.answersAlike⟩
  · intro same
    have h : one.Twins .counters other :=
      course.twins_of_filter same fun operation _ => operation.keepsTwins_counters
    have d := h.dispatcher
    refine ⟨?_, h.bench.same rfl, h.journal, h.answersAlike⟩
    rw [Dispatcher.resetCounters, Dispatcher.resetCounters, d.outcome, d.info, d.inbox rfl,
      d.registry]

/-- A frame of three bytes fills a window in one run, is cut in a second and finds no buffer in a
third.  A reset leaves all but the counters of the second run as they are. -/
theorem buffers_and_counters_do_not_interfere_frame :
    let radio : SimulatedRadio := { chip := 0 }
    let board : SimulatedBoard := {}
    let latch : Operation := .arrange fun bench =>
      bench.setChip 0 ((bench.chips 0).latch (.rxDone ⟨[1, 2, 3], -70, 4⟩))
    let course := start [0, 0, 0, 0] {}
    let filled : List Operation :=
      [.install radio board, .setBuffer (.window ⟨0, 4⟩), latch, .dispatch (.line 0), .takeBuffer]
    let cut : List Operation :=
      [.install radio board, latch, .setBuffer (.owned [0]), .dispatch (.line 0)]
    let bare : List Operation := [.install radio board, latch, .dispatch (.line 0)]
    let reset : List Operation := cut ++ [.resetCounters]
    (course.run cut).dispatcher.info = (course.run filled).dispatcher.info ∧
      (course.run bare).dispatcher.counters.withoutFit =
        (course.run cut).dispatcher.counters.withoutFit ∧
      (course.run cut).dispatcher.counters.rxTruncated = 1 ∧
      (course.run bare).dispatcher.counters.rxUnbuffered = 1 ∧
      (course.run reset).dispatcher.resetCounters = (course.run cut).dispatcher.resetCounters ∧
      (course.run reset).dispatcher.counters.rxTruncated = 0 := by
  intro radio board latch course filled cut bare reset
  have installs : (Operation.install radio board).KeepsTwins .buffers :=
    inferInstanceAs (RadioInterrupt.KeepsTwins .buffers SimulatedRadio)
  have latches : latch.KeepsTwins .buffers := by
    intro bench other h
    change (bench.setChip 0 _).Twins .buffers (other.setChip 0 _)
    rw [h.chips]
    exact h.setChip 0 _
  have keepsFilled : ∀ operation ∈ filled, operation.KeepsTwins .buffers := by
    simp only [filled, List.forall_mem_cons]
    exact ⟨installs, trivial, latches, trivial, trivial, List.forall_mem_nil _⟩
  have keepsCut : ∀ operation ∈ cut, operation.KeepsTwins .buffers := by
    simp only [cut, List.forall_mem_cons]
    exact ⟨installs, latches, trivial, trivial, List.forall_mem_nil _⟩
  have keepsBare : ∀ operation ∈ bare, operation.KeepsTwins .buffers := by
    simp only [bare, List.forall_mem_cons]
    exact ⟨installs, latches, trivial, List.forall_mem_nil _⟩
  have first := (course.buffers_and_counters_do_not_interfere filled cut).1 rfl
    (List.forall_mem_append.mpr ⟨keepsFilled, keepsCut⟩)
  have second := (course.buffers_and_counters_do_not_interfere cut bare).1 rfl
    (List.forall_mem_append.mpr ⟨keepsCut, keepsBare⟩)
  have third := (course.buffers_and_counters_do_not_interfere cut reset).2 rfl
  exact ⟨first.1.2.1, second.1.2.2.1, rfl, rfl, third.1, rfl⟩

end Course

end RadioInterrupt
