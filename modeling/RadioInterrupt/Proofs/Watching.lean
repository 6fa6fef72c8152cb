import RadioInterrupt.Proofs.Causes
import RadioInterrupt.Proofs.Tally
import RadioInterrupt.Script

/-!
# What a watch reads

A watch shows the outcome that the recorder holds.  Between operations that is the outcome of the
last dispatch.  Inside the run of a handler it is busy until the first report of this run and the
outcome of that report from then on, since every dispatch begins by forgetting the outcome of the
one before.  `Routine.moments` lists the points of a run at which a watch can be read.
-/

namespace RadioInterrupt

def Outcome.ofReports (reports : List Report) : Outcome :=
  reports.head?.elim .busy Report.outcome

theorem Recorder.outcome_accept {recorder : Recorder} {made : List Report}
    (h : recorder.outcome = .ofReports made) (report : Report) :
    (recorder.accept report).1.outcome = .ofReports (made ++ [report]) := by
  cases made with
  | nil => exact outcome_accept_of_busy h report
  | cons first later =>
      have settled : recorder.outcome.isTerminal = true := by
        rw [h]
        exact first.isTerminal_outcome
      rw [accept_of_terminal settled]
      exact h

/-! ## Points of a run -/

/-- A point between two actions of a run. -/
structure Moment where
  made : List Report
  rest : Routine
  recorder : Recorder
  bench : Bench

namespace Moment

def shown (moment : Moment) : Option Outcome :=
  ReportSink.visible moment.recorder

def ended (moment : Moment) : Recorder × Bench :=
  moment.rest.run moment.recorder moment.bench

def reports (moment : Moment) : List Report :=
  moment.made ++ moment.rest.reports moment.recorder moment.bench

/-- The run goes on from the point to its end, and the first report so far is shown there. -/
structure LiesOn (moment : Moment) (routine : Routine) (made : List Report) (recorder : Recorder)
    (bench : Bench) : Prop where
  ended : moment.ended = routine.run recorder bench
  reports : moment.reports = made ++ routine.reports recorder bench
  shown : moment.shown = some (.ofReports moment.made)

end Moment

namespace Routine

def moments (routine : Routine) (made : List Report) (recorder : Recorder) (bench : Bench) :
    List Moment :=
  ⟨made, routine, recorder, bench⟩ ::
    match routine with
    | .done => []
    | .report one next =>
        next.moments (made ++ [one]) (recorder.accept one).1 (bench.say (recorder.accept one).2)
    | .look next => (next (ReportSink.visible recorder)).moments made recorder bench
    | .post sender event next =>
        (next (bench.post sender event).1).moments made recorder (bench.post sender event).2
    | .note entry next => next.moments made recorder (bench.note entry)

variable {routine : Routine} {made : List Report} {recorder : Recorder} {bench : Bench}
  {moment : Moment}

theorem liesOn_self (begun : recorder.outcome = .ofReports made) (routine : Routine) :
    Moment.LiesOn ⟨made, routine, recorder, bench⟩ routine made recorder bench :=
  ⟨rfl, rfl, congrArg some begun⟩

theorem liesOn_of_mem (begun : recorder.outcome = .ofReports made)
    (h : moment ∈ routine.moments made recorder bench) :
    moment.LiesOn routine made recorder bench := by
  induction routine generalizing made recorder bench with
  | done =>
      obtain rfl := List.mem_singleton.mp h
      exact liesOn_self begun _
  | report one next ih =>
      rcases List.mem_cons.mp h with rfl | later
      · exact liesOn_self begun _
      · have on := ih (Recorder.outcome_accept begun one) later
        refine ⟨on.ended, ?_, on.shown⟩
        rw [on.reports, reports_report, List.append_assoc]
        rfl
  | look next ih | post sender event next ih =>
      rcases List.mem_cons.mp h with rfl | later
      · exact liesOn_self begun _
      · have on := ih _ begun later
        exact ⟨on.ended, on.reports, on.shown⟩
  | note entry next ih =>
      rcases List.mem_cons.mp h with rfl | later
      · exact liesOn_self begun _
      · have on := ih begun later
        exact ⟨on.ended, on.reports, on.shown⟩

theorem exists_moment {soFar : List Report} (h : soFar <+: routine.reports recorder bench) :
    ∃ moment ∈ routine.moments made recorder bench, moment.made = made ++ soFar := by
  induction routine generalizing made recorder bench soFar with
  | done =>
      obtain rfl := List.prefix_nil.mp h
      exact ⟨_, List.mem_cons_self, (List.append_nil made).symm⟩
  | report one next ih =>
      rw [reports_report] at h
      cases soFar with
      | nil => exact ⟨_, List.mem_cons_self, (List.append_nil made).symm⟩
      | cons first later =>
          obtain ⟨rfl, rest⟩ := List.cons_prefix_cons.mp h
          obtain ⟨moment, member, same⟩ := @ih (made ++ [first]) _ _ later rest
          exact ⟨moment, List.mem_cons_of_mem _ member, by simp [same]⟩
  | look next ih | post sender event next ih =>
      obtain ⟨moment, member, same⟩ := ih _ h
      exact ⟨moment, List.mem_cons_of_mem _ member, same⟩
  | note entry next ih =>
      obtain ⟨moment, member, same⟩ := ih h
      exact ⟨moment, List.mem_cons_of_mem _ member, same⟩

end Routine

namespace Dispatcher

def moments (dispatcher : Dispatcher) (event : Event) (bench : Bench) : List Moment :=
  (dispatcher.handler? event.slot).elim [] fun handler =>
    (handler.start bench).1.moments [] dispatcher.begin.toRecorder (handler.start bench).2

end Dispatcher

/-- One dispatch of a drain, with what it starts from. -/
structure Drained where
  event : Event
  dispatcher : Dispatcher
  bench : Bench

namespace Drained

def run (turn : Drained) : DispatchRun :=
  turn.dispatcher.dispatch turn.event turn.bench

def reports (turn : Drained) : List Report :=
  turn.dispatcher.reports turn.event turn.bench

def moments (turn : Drained) : List Moment :=
  turn.dispatcher.moments turn.event turn.bench

end Drained

namespace Dispatcher

def drainTurns (announce : Announce) : Nat → Dispatcher → Bench → List Drained
  | 0, _, _ => []
  | limit + 1, dispatcher, bench =>
      match bench.tryNext with
      | (none, _) => []
      | (some event, bench) =>
          let turn : Drained := ⟨event, dispatcher, bench⟩
          turn :: drainTurns announce limit turn.run.dispatcher
            (turn.run.bench.say (announce event turn.run.result))

def drainMoments (announce : Announce) (limit : Nat) (dispatcher : Dispatcher) (bench : Bench) :
    List Moment :=
  (drainTurns announce limit dispatcher bench).flatMap Drained.moments

variable {dispatcher : Dispatcher} {event : Event} {bench : Bench} {moment : Moment}

theorem spec_of_mem (h : moment ∈ dispatcher.moments event bench) :
    dispatcher.dispatch event bench =
        dispatcher.begin.endHandled event moment.ended.1 moment.ended.2 ∧
      moment.reports = dispatcher.reports event bench ∧
      moment.shown = some (.ofReports moment.made) := by
  rw [moments] at h
  cases held : dispatcher.handler? event.slot with
  | none =>
      rw [held] at h
      cases h
  | some handler =>
      rw [held] at h
      -- The dispatch has forgotten the outcome of the one before, so that nothing stale is shown.
      have begun : dispatcher.begin.toRecorder.outcome = .ofReports [] := rfl
      have on := Routine.liesOn_of_mem begun h
      refine ⟨?_, ?_, on.shown⟩
      · rw [dispatch_of_handler held, on.ended]
        rfl
      · rw [reports_of_some held, on.reports]
        rfl

theorem exists_moment (configured : dispatcher.isConfigured event = true)
    {soFar : List Report} (h : soFar <+: dispatcher.reports event bench) :
    ∃ moment ∈ dispatcher.moments event bench, moment.made = soFar := by
  obtain ⟨handler, held⟩ := Option.isSome_iff_exists.mp configured
  rw [reports_of_some held] at h
  rw [moments, held]
  exact Routine.exists_moment h

theorem map_drainTurns (announce : Announce) (limit : Nat) (dispatcher : Dispatcher)
    (bench : Bench) :
    (drainTurns announce limit dispatcher bench).map (fun turn => (turn.event, turn.run.result)) =
      (drainUpTo announce limit dispatcher bench).outcomes := by
  induction limit generalizing dispatcher bench with
  | zero => rfl
  | succ limit ih =>
      rw [drainTurns, drainUpTo]
      generalize bench.tryNext = next
      obtain ⟨found, left⟩ := next
      cases found with
      | none => rfl
      | some event => exact congrArg (List.cons _) (ih _ _)

theorem shown_of_mem_drainMoments {announce : Announce} {limit : Nat}
    (h : moment ∈ drainMoments announce limit dispatcher bench) :
    moment.shown = some (.ofReports moment.made) := by
  obtain ⟨turn, -, member⟩ := List.mem_flatMap.mp h
  exact (spec_of_mem member).2.2

theorem outcome_install {δ β ε : Type} [Driver δ β ε] (dispatcher : Dispatcher) (driver : δ)
    (board : β) (bench : Bench) :
    (dispatcher.install driver board bench).dispatcher.outcome = dispatcher.outcome := by
  rw [dispatcher_install]
  rfl

end Dispatcher

/-! ## Watches of a session -/

namespace Session.Dispatch

def Step.dispatches : Step → Bool
  | .dispatch _ | .drain => true
  | _ => false

def Step.isWatch : Step → Bool
  | .watch => true
  | _ => false

variable {session next last : Dispatch} {answer : Answer}

theorem outcome_performCommand (session : Dispatch) (command : Command) :
    (session.performCommand command).2.dispatcher = session.dispatcher ∧
      (session.performCommand command).2.watches = session.watches := by
  cases driven : session.radio with
  | none => simp [performCommand, driven]
  | some radio => simp [performCommand_next driven]

theorem outcome_act {step : Step} (still : step.dispatches = false)
    (acted : session.act step = .ok (answer, next)) :
    next.dispatcher.outcome = session.dispatcher.outcome ∧
      next.watches = session.watches + if step.isWatch then 1 else 0 := by
  cases step with
  | dispatch | drain => cases still
  | install driver =>
      cases acted
      exact ⟨session.dispatcher.outcome_install driver () session.bench, rfl⟩
  | installRadio timers =>
      rw [act] at acted
      cases driven : session.radio with
      | none =>
          rw [driven] at acted
          cases acted
          exact ⟨rfl, rfl⟩
      | some radio =>
          rw [driven] at acted
          cases acted
          let board : SimulatedBoard := { timers }
          exact ⟨session.dispatcher.outcome_install radio board session.bench, rfl⟩
  | command command =>
      obtain ⟨dispatcher, watches⟩ := session.outcome_performCommand command
      have same : (session.performCommand command).2 = next :=
        congrArg Prod.snd (Except.ok.inj acted)
      rw [← same, dispatcher]
      exact ⟨rfl, watches⟩
  | setBuffer destination =>
      cases acted
      refine ⟨?_, rfl⟩
      change (Option.elim (destination.take session.spare).1 session.dispatcher
        session.dispatcher.setBuffer).outcome = _
      cases (destination.take session.spare).1 <;> rfl
  | latch cause =>
      rw [act] at acted
      cases driven : session.radio <;> rw [driven] at acted <;> cases acted <;> exact ⟨rfl, rfl⟩
  | newQueue capacity =>
      rw [act] at acted
      cases made : PostQueue.make? capacity <;> rw [made] at acted <;> cases acted
      exact ⟨rfl, rfl⟩
  | register | isConfigured | takeBuffer | info | counters | resetCounters | watch | readWatches
  | newRadio | chip | cloneSender | dropSender | dropQueue | post | dropped | tryNext | poll =>
      cases acted
      exact ⟨rfl, rfl⟩

theorem outcome_run {steps : List Step} {answers : List Answer}
    (still : ∀ step ∈ steps, step.dispatches = false)
    (ran : session.run steps = .ok (answers, last)) :
    last.dispatcher.outcome = session.dispatcher.outcome ∧
      last.watches = session.watches + steps.countP Step.isWatch := by
  induction steps generalizing session answers with
  | nil =>
      cases ran
      exact ⟨rfl, rfl⟩
  | cons step steps ih =>
      obtain ⟨answer, next, rest, stepped, later, rfl⟩ := exists_of_run_cons ran
      have acted : session.quiet.act step = .ok (answer, next) := stepped
      have first := outcome_act (still step List.mem_cons_self) acted
      have others := ih (fun other h => still other (List.mem_cons_of_mem _ h)) later
      refine ⟨others.1.trans first.1, ?_⟩
      rw [others.2, first.2, List.countP_cons]
      exact (Nat.add_assoc _ _ _).trans (congrArg _ (Nat.add_comm _ _))

end Session.Dispatch

/-! ## Between operations -/

def Operation.dispatches : Operation → Bool
  | .dispatch _ | .drain _ => true
  | _ => false

def Entry.outcome (journal : List Entry) : Outcome :=
  (journal.findSome? dispatched?).elim .busy fun made => .ofReports made.reports

namespace Course

def moments (course : Course) : Operation → List Moment
  | .dispatch event => course.dispatcher.moments event course.bench
  | .drain announce =>
      Dispatcher.drainMoments announce Dispatcher.drainLimit course.dispatcher course.bench
  | _ => []

theorem shown_of_mem_moments {course : Course} {operation : Operation} {moment : Moment}
    (h : moment ∈ course.moments operation) : moment.shown = some (.ofReports moment.made) := by
  cases operation with
  | dispatch event => exact (Dispatcher.spec_of_mem h).2.2
  | drain announce => exact Dispatcher.shown_of_mem_drainMoments h
  | register | install | setBuffer | takeBuffer | resetCounters | arrange => cases h

theorem outcome_perform (course : Course) {operation : Operation}
    (h : operation.dispatches = false) :
    (course.perform operation).dispatcher.outcome = course.dispatcher.outcome := by
  cases operation with
  | install driver board => exact course.dispatcher.outcome_install driver board course.bench
  | dispatch event => cases h
  | drain announce => cases h
  | register | setBuffer | takeBuffer | resetCounters | arrange => rfl

def ShowsLast (course : Course) : Prop :=
  course.dispatcher.outcome = Entry.outcome course.journal

theorem invariant_showsLast : Invariant ShowsLast where
  register _ _ h := h
  install course driver board h :=
    (course.dispatcher.outcome_install driver board course.bench).trans h
  setBuffer _ _ h := h
  takeBuffer _ h := h
  resetCounters _ h := h
  dispatch course event _ := course.dispatcher.outcome_dispatch event course.bench
  arrange _ _ h := h

/-- After every course the outcome is that of the last dispatch, which is busy where that reported
nothing or found no handler, and before there was one.  In a session that goes on from there all
watches read it, those taken later too, until the next dispatch.  At each point of a run in that
dispatch a watch reads busy until this run reports, and the outcome of its first report from then
on.  The same holds in each dispatch of a drain, whatever the one before has left. -/
theorem watch_reads_current_dispatch (region : Bytes) (bench : Bench)
    (operations : List Operation) :
    let course := (start region bench).run operations
    let outcome := course.dispatcher.outcome
    ((∀ entry ∈ course.journal, entry.dispatched? = none) → outcome = .busy) ∧
    (∀ later made earlier, course.journal = later ++ .dispatched made :: earlier →
      (∀ entry ∈ later, entry.dispatched? = none) → outcome = .ofReports made.reports) ∧
    (∀ event, (course.dispatch event).dispatcher.outcome =
        .ofReports (course.dispatcher.reports event course.bench) ∧
      (course.dispatcher.isConfigured event = false →
        (course.dispatch event).dispatcher.outcome = .busy)) ∧
    (∀ (session last : Session.Dispatch) steps answers, session.dispatcher = course.dispatcher →
      (∀ step ∈ steps, step.dispatches = false) → session.run steps = .ok (answers, last) →
      last.act .readWatches = .ok (.outcomes (List.replicate
        (session.watches + steps.countP Session.Dispatch.Step.isWatch) outcome), last)) ∧
    (∀ operation, ∀ moment ∈ course.moments operation,
      (moment.made = [] → moment.shown = some .busy) ∧
      ∀ first later, moment.made = first :: later → moment.shown = some first.outcome) ∧
    (∀ event, ∀ moment ∈ course.moments (.dispatch event),
      course.dispatcher.dispatch event course.bench =
          course.dispatcher.begin.endHandled event moment.ended.1 moment.ended.2 ∧
        moment.reports = course.dispatcher.reports event course.bench) ∧
    (∀ event, course.dispatcher.isConfigured event = true →
      ∀ soFar, soFar <+: course.dispatcher.reports event course.bench →
        ∃ moment ∈ course.moments (.dispatch event), moment.made = soFar) ∧
    (∀ announce,
      let turns := Dispatcher.drainTurns announce Dispatcher.drainLimit course.dispatcher
        course.bench
      turns.map (fun turn => (turn.event, turn.run.result)) =
          (course.dispatcher.drain course.bench announce).outcomes ∧
        course.moments (.drain announce) = turns.flatMap Drained.moments ∧
        ∀ turn ∈ turns, turn.run.dispatcher.outcome = .ofReports turn.reports ∧
          (∀ moment ∈ turn.moments,
            turn.run = turn.dispatcher.begin.endHandled turn.event moment.ended.1 moment.ended.2 ∧
              moment.reports = turn.reports) ∧
          (turn.dispatcher.isConfigured turn.event = true → ∀ soFar, soFar <+: turn.reports →
            ∃ moment ∈ turn.moments, moment.made = soFar)) ∧
    (∀ operation, operation.dispatches = false →
      (course.perform operation).dispatcher.outcome = outcome) := by
  intro course outcome
  have fresh : (start region bench).ShowsLast := rfl
  have h : outcome = Entry.outcome course.journal := invariant_showsLast.run fresh operations
  refine ⟨?_, ?_, ?_, ?_, ?_, ?_, ?_, ?_, ?_⟩
  · intro silent
    rw [h, Entry.outcome, List.findSome?_eq_none_iff.mpr silent]
    rfl
  · intro later made earlier hjournal silent
    rw [h, Entry.outcome, hjournal, List.findSome?_append,
      List.findSome?_eq_none_iff.mpr silent]
    rfl
  · intro event
    have ended := course.dispatcher.outcome_dispatch event course.bench
    refine ⟨ended, fun unconfigured => ?_⟩
    have absent : course.dispatcher.handler? event.slot = none := by
      simpa [Dispatcher.isConfigured] using unconfigured
    rw [Dispatcher.reports_of_none absent] at ended
    exact ended
  · intro session last steps answers same still ran
    obtain ⟨kept, watches⟩ := Session.Dispatch.outcome_run still ran
    rw [Session.Dispatch.act, kept, watches, same]
  · intro operation moment member
    rw [shown_of_mem_moments member]
    refine ⟨fun none => ?_, fun first later some => ?_⟩
    · rw [none]
      rfl
    · rw [some]
      rfl
  · intro event moment member
    obtain ⟨ended, reports, -⟩ := Dispatcher.spec_of_mem member
    exact ⟨ended, reports⟩
  · intro event configured soFar member
    exact Dispatcher.exists_moment configured member
  · intro announce turns
    obtain ⟨messages, same⟩ := Dispatcher.exists_drain_eq announce course.dispatcher course.bench
    refine ⟨?_, rfl, fun turn member => ⟨?_, ?_, ?_⟩⟩
    · rw [same]
      exact Dispatcher.map_drainTurns _ _ _ _
    · exact turn.dispatcher.outcome_dispatch turn.event turn.bench
    · intro moment within
      obtain ⟨ended, reports, -⟩ := Dispatcher.spec_of_mem within
      exact ⟨ended, reports⟩
    · intro configured soFar begins
      exact Dispatcher.exists_moment configured begins
  · intro operation still
    exact outcome_perform course still

/-- In the second run of a handler nothing is left of the outcome of its first, and a line without a
handler makes every watch read busy. -/
theorem watch_reads_current_dispatch_second :
    let probe : Script :=
      { id := "probe", runs := [[.report .txDone], [.report .rxTimeout, .report .rxError]] }
    let course := (start [] {}).run [.register (.line 2 probe.handler), .dispatch (.line 2)]
    let session : Session.Dispatch := { dispatcher := course.dispatcher, watches := 1 }
    (start [] {}).dispatcher.outcome = .busy ∧ course.dispatcher.outcome = .txDone ∧
      (course.dispatch (.line 3)).dispatcher.outcome = .busy ∧
      (∃ answers last, session.run [.watch, .info] = .ok (answers, last) ∧
        last.act .readWatches = .ok (.outcomes [.txDone, .txDone], last)) ∧
      (∃ moment ∈ course.moments (.dispatch (.line 2)),
        moment.made = [] ∧ moment.shown = some .busy) ∧
      (∃ moment ∈ course.moments (.dispatch (.line 2)),
        moment.made = [.rxTimeout, .rxError] ∧ moment.shown = some .rxTimeout) ∧
      course.resetCounters.dispatcher.outcome = .txDone := by
  intro probe course session
  obtain ⟨blank, -⟩ := watch_reads_current_dispatch [] {} []
  obtain ⟨-, last, next, watches, shown, -, covered, -, still⟩ := watch_reads_current_dispatch [] {}
    [.register (.line 2 probe.handler), .dispatch (.line 2)]
  have outcome : course.dispatcher.outcome = .txDone := last [] _ _ rfl (List.forall_mem_nil _)
  have absent : course.dispatcher.isConfigured (.line 3) = false := rfl
  have idle : ∀ step ∈ [Session.Dispatch.Step.watch, .info], step.dispatches = false := by decide
  have ran : session.run [.watch, .info] = .ok (_, _) := rfl
  refine ⟨blank (List.forall_mem_nil _), outcome, (next (.line 3)).2 absent, ⟨_, _, ran, ?_⟩,
    ?_, ?_, ?_⟩
  · exact watches session _ _ _ rfl idle ran
  · obtain ⟨moment, member, made⟩ := covered (.line 2) rfl [] List.nil_prefix
    exact ⟨moment, member, made, (shown _ moment member).1 made⟩
  · obtain ⟨moment, member, made⟩ :=
      covered (.line 2) rfl [.rxTimeout, .rxError] (List.prefix_refl _)
    exact ⟨moment, member, made, (shown _ moment member).2 _ _ made⟩
  · exact (still .resetCounters rfl).trans outcome

end Course

end RadioInterrupt
