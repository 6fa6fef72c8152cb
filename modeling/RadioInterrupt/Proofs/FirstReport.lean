import RadioInterrupt.Proofs.Dispatch

/-!
# The first report of a dispatch is final

A dispatch is compared with the one in which the same handler leaves out every report after its
first.  Result, outcome, frame description, inbox and counters are the same, and so is the bench,
but for one notice for each report that was left out.
-/

namespace RadioInterrupt

def Handler.keepFirst : Handler → Handler
  | .routine behaviour runs => .routine (fun run => (behaviour run).keepFirst) runs
  | .chipLine number => .chipLine number
  | .chipTimer number report => .chipTimer number report

theorem Handler.start_keepFirst (handler : Handler) (bench : Bench) :
    handler.keepFirst.start bench =
      ((handler.start bench).1.keepFirst, (handler.start bench).2) := by
  cases handler with
  | routine behaviour runs => rfl
  | chipLine number =>
      cases hserviced : (bench.chips number).service with
      | none => simp [keepFirst, start, hserviced, Routine.keepFirst]
      | some serviced => simp [keepFirst, start, hserviced, Routine.keepFirst, Routine.mute]
  | chipTimer number report => rfl

theorem Handler.reports_keepFirst (handler : Handler) (recorder : Recorder) (bench : Bench) :
    handler.keepFirst.reports recorder bench = (handler.reports recorder bench).take 1 := by
  rw [reports, start_keepFirst]
  exact Routine.reports_keepFirst _ _ _

theorem Handler.run_keepFirst (handler : Handler) {recorder : Recorder}
    (h : recorder.outcome = .busy) (bench : Bench) :
    (handler.keepFirst.run recorder bench).1 = (handler.run recorder bench).1 ∧
      (handler.keepFirst.run recorder bench).2.withoutNotices =
        (handler.run recorder bench).2.withoutNotices := by
  rw [run, start_keepFirst]
  exact Routine.run_keepFirst h _ _

namespace Dispatcher

def keepFirst (dispatcher : Dispatcher) (slot : Slot) : Dispatcher :=
  { dispatcher with toRegistry := dispatcher.toRegistry.change slot Handler.keepFirst }

theorem handler?_keepFirst (dispatcher : Dispatcher) (slot : Slot) :
    (dispatcher.keepFirst slot).handler? slot =
      (dispatcher.handler? slot).map Handler.keepFirst := by
  change (dispatcher.toRegistry.change slot Handler.keepFirst).handler? slot = _
  rw [Registry.handler?_change, if_pos rfl]

theorem notices_dispatch (dispatcher : Dispatcher) (event : Event) (bench : Bench) :
    (dispatcher.dispatch event bench).bench.notices =
      bench.notices ++ dropNotices (dispatcher.reports event bench) := by
  cases h : dispatcher.handler? event.slot with
  | none =>
      rw [dispatch_of_none h, reports_of_none h, endUnhandled]
      cases event.slot <;> simp [dropNotices, Message.isDropNotice]
  | some handler =>
      rw [dispatch_of_handler h, reports_of_some h]
      change ((handler.run _ _).2.say [.dispatched event _]).notices = _
      rw [Bench.notices_say, handler.notices_run_of_busy dispatcher.outcome_begin]
      simp [Message.isDropNotice]

theorem reports_keepFirst (dispatcher : Dispatcher) (event : Event) (bench : Bench) :
    (dispatcher.keepFirst event.slot).reports event bench =
      (dispatcher.reports event bench).take 1 := by
  have kept := dispatcher.handler?_keepFirst event.slot
  cases h : dispatcher.handler? event.slot with
  | none =>
      rw [h, Option.map_none] at kept
      rw [reports_of_none kept, reports_of_none h]
      rfl
  | some handler =>
      rw [h, Option.map_some] at kept
      rw [reports_of_some kept, reports_of_some h]
      exact handler.reports_keepFirst _ bench

theorem dispatch_keepFirst (dispatcher : Dispatcher) (event : Event) (bench : Bench) :
    let run := dispatcher.dispatch event bench
    let brief := (dispatcher.keepFirst event.slot).dispatch event bench
    run.result = brief.result ∧
      run.dispatcher.toRecorder = brief.dispatcher.toRecorder ∧
      run.bench.withoutNotices = brief.bench.withoutNotices := by
  have kept := dispatcher.handler?_keepFirst event.slot
  cases h : dispatcher.handler? event.slot with
  | none =>
      rw [h, Option.map_none] at kept
      rw [dispatch_of_none h, dispatch_of_none kept, endUnhandled, endUnhandled]
      cases event.slot <;> exact ⟨rfl, rfl, rfl⟩
  | some handler =>
      rw [h, Option.map_some] at kept
      obtain ⟨recorded, rest⟩ := handler.run_keepFirst dispatcher.outcome_begin bench
      have begun : (dispatcher.keepFirst event.slot).begin.toRecorder =
          dispatcher.begin.toRecorder := rfl
      rw [dispatch_of_handler h, dispatch_of_handler kept, begun, recorded]
      refine ⟨rfl, rfl, ?_⟩
      simp only [endHandled, Bench.withoutNotices_say, rest]

/-- Of the reports of a dispatch only the first has an effect.  The others are logged as dropped,
in their order and each with the outcome that was kept. -/
theorem first_report_is_final (dispatcher : Dispatcher) (event : Event) (bench : Bench) :
    let reports := dispatcher.reports event bench
    let run := dispatcher.dispatch event bench
    let brief := (dispatcher.keepFirst event.slot).dispatch event bench
    (dispatcher.keepFirst event.slot).reports event bench = reports.take 1 ∧
      run.result = brief.result ∧
      run.dispatcher.toRecorder = brief.dispatcher.toRecorder ∧
      run.bench.withoutNotices = brief.bench.withoutNotices ∧
      run.bench.notices = bench.notices ++ dropNotices reports ∧
      (dropNotices reports).map Message.level = List.replicate (reports.length - 1) .warn := by
  obtain ⟨result, recorder, rest⟩ := dispatcher.dispatch_keepFirst event bench
  exact ⟨dispatcher.reports_keepFirst event bench, result, recorder, rest,
    dispatcher.notices_dispatch event bench, level_dropNotices _⟩

end Dispatcher

end RadioInterrupt
