import RadioInterrupt.Proofs.Dependence

/-!
# Runs that differ in buffers or in counters

Which buffer is registered decides where the bytes of a frame go, two counters and some messages.
The counters decide nothing.  Two states are twins with respect to one of these aspects when they
agree on the rest, and what handlers do leaves twins behind: they see the outcome of the dispatch
and the bench around them, where they find nothing of a buffer or a counter.
-/

namespace RadioInterrupt

inductive Aspect where
  /-- The buffer, the counters of frames that did not fit it, and the log. -/
  | buffers
  | counters

variable {aspect : Aspect}

namespace Counters

/-- The counters without those that tell how frames fitted the buffer. -/
def withoutFit (counters : Counters) : Counters :=
  { counters with rxTruncated := 0, rxUnbuffered := 0 }

theorem withoutFit_record (counters : Counters) (outcome : Outcome) :
    (counters.record outcome).withoutFit = counters.withoutFit.record outcome := by
  cases outcome <;> rfl

end Counters

/-! ## Twin benches -/

structure Bench.Twins (aspect : Aspect) (bench other : Bench) : Prop extends
    bench.Alike other where
  notes : other.notes = bench.notes
  same : aspect = .counters → other = bench

namespace Bench

theorem notes_post (bench : Bench) (sender : Nat) (event : Event) :
    (bench.post sender event).2.notes = bench.notes := by
  unfold post
  split
  · rfl
  · split
    · split <;> rfl
    · rfl

namespace Twins

variable {bench other another : Bench}

theorem refl (aspect : Aspect) (bench : Bench) : bench.Twins aspect bench :=
  ⟨⟨rfl, rfl⟩, rfl, fun _ => rfl⟩

theorem symm (h : bench.Twins aspect other) : other.Twins aspect bench :=
  ⟨⟨h.chips.symm, h.queue.symm⟩, h.notes.symm, fun counters => (h.same counters).symm⟩

theorem trans (h : bench.Twins aspect other) (next : other.Twins aspect another) :
    bench.Twins aspect another where
  chips := next.chips.trans h.chips
  queue := next.queue.trans h.queue
  notes := next.notes.trans h.notes
  same counters := (next.same counters).trans (h.same counters)

theorem say (h : bench.Twins aspect other) {messages others : List Message}
    (logged : aspect = .counters → others = messages) :
    (bench.say messages).Twins aspect (other.say others) where
  chips := h.chips
  queue := h.queue
  notes := h.notes
  same counters := by rw [h.same counters, logged counters]

theorem note (h : bench.Twins aspect other) (entry : Note) :
    (bench.note entry).Twins aspect (other.note entry) where
  chips := h.chips
  queue := h.queue
  notes := by simp [h.notes]
  same counters := by rw [h.same counters]

theorem setChip (h : bench.Twins aspect other) (number : Nat) (chip : Chip) :
    (bench.setChip number chip).Twins aspect (other.setChip number chip) where
  chips := chips_setChip_congr h.chips number chip
  queue := h.queue
  notes := h.notes
  same counters := by rw [h.same counters]

theorem post (h : bench.Twins aspect other) (sender : Nat) (event : Event) :
    (other.post sender event).1 = (bench.post sender event).1 ∧
      (bench.post sender event).2.Twins aspect (other.post sender event).2 := by
  obtain ⟨answer, left⟩ := h.toAlike.post sender event
  refine ⟨answer, left, ?_, fun counters => by rw [h.same counters]⟩
  rw [notes_post, notes_post, h.notes]

theorem tryNext (h : bench.Twins aspect other) :
    other.tryNext.1 = bench.tryNext.1 ∧ bench.tryNext.2.Twins aspect other.tryNext.2 := by
  obtain ⟨found, left⟩ := h.toAlike.tryNext
  refine ⟨found, left, ?_, fun counters => by rw [h.same counters]⟩
  rw [tryNext_eq, tryNext_eq, h.notes]

end Twins

end Bench

/-! ## Twin recorders -/

structure Recorder.Twins (aspect : Aspect) (recorder other : Recorder) : Prop where
  outcome : other.outcome = recorder.outcome
  info : other.info = recorder.info
  counters : aspect = .buffers → other.counters.withoutFit = recorder.counters.withoutFit
  inbox : aspect = .counters → other.inbox = recorder.inbox

namespace Recorder

theorem Twins.visible {recorder other : Recorder} (h : recorder.Twins aspect other) :
    ReportSink.visible other = ReportSink.visible recorder := by
  simp [h.outcome]

theorem withoutFit_takeFrame (recorder : Recorder) (frame : Frame) :
    (recorder.takeFrame frame).1.counters.withoutFit = recorder.counters.withoutFit := by
  cases hcopy : (recorder.inbox.fill frame.payload).2 with
  | none => simp [takeFrame, hcopy, Counters.withoutFit]
  | some copy => cases hcut : copy.truncated <;> simp [takeFrame, hcopy, hcut, Counters.withoutFit]

theorem messages_takeFrame {recorder other : Recorder} (h : other.inbox = recorder.inbox)
    (frame : Frame) : (other.takeFrame frame).2 = (recorder.takeFrame frame).2 := by
  cases hcopy : (recorder.inbox.fill frame.payload).2 with
  | none => simp [takeFrame, h, hcopy]
  | some copy => cases hcut : copy.truncated <;> simp [takeFrame, h, hcopy, hcut]

theorem Twins.accept {recorder other : Recorder} (h : recorder.Twins aspect other)
    (report : Report) :
    (recorder.accept report).1.Twins aspect (other.accept report).1 ∧
      (aspect = .counters → (other.accept report).2 = (recorder.accept report).2) := by
  cases settled : recorder.outcome.isTerminal with
  | true =>
      have settledOther : other.outcome.isTerminal = true := by rw [h.outcome, settled]
      rw [accept_of_terminal settled, accept_of_terminal settledOther, h.outcome]
      exact ⟨h, fun _ => rfl⟩
  | false =>
      cases report with
      | rxDone frame =>
          have taken : recorder.accept (.rxDone frame) = recorder.takeFrame frame := by
            simp [Recorder.accept, settled]
          have takenOther : other.accept (.rxDone frame) = other.takeFrame frame := by
            simp [Recorder.accept, h.outcome, settled]
          rw [taken, takenOther]
          refine ⟨⟨rfl, rfl, fun buffers => ?_, fun counters => ?_⟩, fun counters => ?_⟩
          · rw [withoutFit_takeFrame, withoutFit_takeFrame, h.counters buffers]
          · simp only [takeFrame, h.inbox counters]
          · exact messages_takeFrame (h.inbox counters) frame
      | txDone | txTimeout | rxTimeout | rxError =>
          simp only [Recorder.accept, h.outcome, settled]
          exact ⟨⟨rfl, h.info, h.counters, h.inbox⟩, fun _ => rfl⟩

end Recorder

/-! ## Runs of handlers -/

theorem Routine.run_twins (routine : Routine) {recorder recorderOther : Recorder}
    {bench benchOther : Bench} (hrecorder : recorder.Twins aspect recorderOther)
    (hbench : bench.Twins aspect benchOther) :
    routine.reports recorderOther benchOther = routine.reports recorder bench ∧
      (routine.run recorder bench).1.Twins aspect (routine.run recorderOther benchOther).1 ∧
      (routine.run recorder bench).2.Twins aspect (routine.run recorderOther benchOther).2 := by
  induction routine generalizing recorder recorderOther bench benchOther with
  | done => exact ⟨rfl, hrecorder, hbench⟩
  | report made next ih =>
      obtain ⟨accepted, logged⟩ := hrecorder.accept made
      obtain ⟨reports, left⟩ := ih accepted (hbench.say logged)
      refine ⟨?_, left⟩
      rw [reports_report, reports_report]
      exact congrArg (List.cons made) reports
  | look next ih =>
      rw [reports_look, reports_look, run_look, run_look, hrecorder.visible]
      exact ih _ hrecorder hbench
  | post sender event next ih =>
      obtain ⟨answer, posted⟩ := hbench.post sender event
      rw [reports_post, reports_post, run_post, run_post, answer]
      exact ih _ hrecorder posted
  | note entry next ih => exact ih hrecorder (hbench.note entry)

theorem Handler.start_twins (handler : Handler) {bench other : Bench}
    (h : bench.Twins aspect other) :
    (handler.start other).1 = (handler.start bench).1 ∧
      (handler.start bench).2.Twins aspect (handler.start other).2 := by
  cases handler with
  | routine behaviour runs => exact ⟨rfl, h⟩
  | chipLine number =>
      rw [start, start, h.chips]
      cases (bench.chips number).service with
      | none => exact ⟨rfl, h.say fun _ => rfl⟩
      | some serviced => exact ⟨rfl, h.setChip number serviced.2⟩
  | chipTimer number report =>
      rw [start, start, h.chips]
      exact ⟨rfl, h.setChip number _⟩

/-! ## Dispatches and drains -/

structure Dispatcher.Twins (aspect : Aspect) (dispatcher other : Dispatcher) : Prop extends
    dispatcher.toRecorder.Twins aspect other.toRecorder where
  registry : other.toRegistry = dispatcher.toRegistry

structure DispatchRun.Twins (aspect : Aspect) (run other : DispatchRun) : Prop where
  result : other.result = run.result
  dispatcher : run.dispatcher.Twins aspect other.dispatcher
  bench : run.bench.Twins aspect other.bench

structure DrainRun.Twins (aspect : Aspect) (run other : DrainRun) : Prop where
  outcomes : other.outcomes = run.outcomes
  dispatcher : run.dispatcher.Twins aspect other.dispatcher
  bench : run.bench.Twins aspect other.bench

namespace Dispatcher.Twins

variable {dispatcher other another : Dispatcher} {bench benchOther : Bench}

theorem symm (h : dispatcher.Twins aspect other) : other.Twins aspect dispatcher where
  outcome := h.outcome.symm
  info := h.info.symm
  counters buffers := (h.counters buffers).symm
  inbox counters := (h.inbox counters).symm
  registry := h.registry.symm

theorem trans (h : dispatcher.Twins aspect other) (next : other.Twins aspect another) :
    dispatcher.Twins aspect another where
  outcome := next.outcome.trans h.outcome
  info := next.info.trans h.info
  counters buffers := (next.counters buffers).trans (h.counters buffers)
  inbox counters := (next.inbox counters).trans (h.inbox counters)
  registry := next.registry.trans h.registry

theorem handler? (h : dispatcher.Twins aspect other) (slot : Slot) :
    other.handler? slot = dispatcher.handler? slot := by
  rw [h.registry]

theorem begin (h : dispatcher.Twins aspect other) : dispatcher.begin.Twins aspect other.begin where
  outcome := rfl
  info := h.info
  counters buffers :=
    congrArg (fun counters : Counters => { counters with dispatched := counters.dispatched + 1 })
      (h.counters buffers)
  inbox := h.inbox
  registry := h.registry

theorem endUnhandled (h : dispatcher.Twins aspect other) (hbench : bench.Twins aspect benchOther)
    (event : Event) :
    (dispatcher.endUnhandled event bench).Twins aspect (other.endUnhandled event benchOther) := by
  rw [Dispatcher.endUnhandled, Dispatcher.endUnhandled]
  cases event.slot with
  | line index =>
      refine ⟨rfl, ⟨⟨h.outcome, h.info, fun buffers => ?_, h.inbox⟩, h.registry⟩,
        hbench.say fun _ => rfl⟩
      exact congrArg
        (fun counters : Counters => { counters with unconfigured := counters.unconfigured + 1 })
        (h.counters buffers)
  | timer id =>
      refine ⟨rfl, ⟨⟨h.outcome, h.info, fun buffers => ?_, h.inbox⟩, h.registry⟩,
        hbench.say fun _ => rfl⟩
      exact congrArg (fun counters : Counters => { counters with
        timerIgnored := counters.timerIgnored + 1, busy := counters.busy + 1 }) (h.counters buffers)

theorem endHandled (h : dispatcher.Twins aspect other) {recorder recorderOther : Recorder}
    (hrecorder : recorder.Twins aspect recorderOther) (hbench : bench.Twins aspect benchOther)
    (event : Event) :
    (dispatcher.endHandled event recorder bench).Twins aspect
      (other.endHandled event recorderOther benchOther) where
  result := congrArg Except.ok hrecorder.outcome
  dispatcher := by
    refine ⟨⟨hrecorder.outcome, hrecorder.info, fun buffers => ?_, hrecorder.inbox⟩, ?_⟩
    · change (recorderOther.counters.record recorderOther.outcome).withoutFit =
        (recorder.counters.record recorder.outcome).withoutFit
      rw [Counters.withoutFit_record, Counters.withoutFit_record, hrecorder.counters buffers,
        hrecorder.outcome]
    · exact congrArg (·.advance event.slot) h.registry
  bench := hbench.say fun _ => by rw [hrecorder.outcome]

theorem dispatch (h : dispatcher.Twins aspect other) (hbench : bench.Twins aspect benchOther)
    (event : Event) :
    other.reports event benchOther = dispatcher.reports event bench ∧
      (dispatcher.dispatch event bench).Twins aspect (other.dispatch event benchOther) := by
  have found := h.handler? event.slot
  cases held : dispatcher.handler? event.slot with
  | none =>
      rw [held] at found
      rw [reports_of_none held, reports_of_none found, dispatch_of_none held,
        dispatch_of_none found]
      exact ⟨rfl, h.begin.endUnhandled hbench event⟩
  | some handler =>
      rw [held] at found
      obtain ⟨routine, started⟩ := handler.start_twins hbench
      obtain ⟨reports, recorders, benches⟩ :=
        (handler.start bench).1.run_twins h.begin.toTwins started
      rw [reports_of_some held, reports_of_some found, dispatch_of_handler held,
        dispatch_of_handler found]
      simp only [Handler.reports, Handler.run, routine]
      exact ⟨reports, h.begin.endHandled recorders benches event⟩

theorem drainUpTo (h : dispatcher.Twins aspect other) (hbench : bench.Twins aspect benchOther)
    (announce : Announce) (limit : Nat) :
    (Dispatcher.drainUpTo announce limit dispatcher bench).Twins aspect
      (Dispatcher.drainUpTo announce limit other benchOther) := by
  induction limit generalizing dispatcher other bench benchOther with
  | zero => exact ⟨rfl, h, hbench⟩
  | succ limit ih =>
      obtain ⟨found, left⟩ := hbench.tryNext
      rw [Dispatcher.drainUpTo, Dispatcher.drainUpTo]
      generalize bench.tryNext = next at found left
      generalize benchOther.tryNext = nextOther at found left
      obtain ⟨event, bench⟩ := next
      obtain ⟨eventOther, benchOther⟩ := nextOther
      obtain rfl : eventOther = event := found
      cases eventOther with
      | none => exact ⟨rfl, h, left⟩
      | some event =>
          obtain ⟨-, first⟩ := h.dispatch left event
          have later := ih first.dispatcher (first.bench.say fun _ =>
            congrArg (announce event) first.result)
          refine ⟨?_, later.dispatcher, later.bench⟩
          exact List.cons_eq_cons.mpr ⟨congrArg (Prod.mk event) first.result, later.outcomes⟩

theorem drain (h : dispatcher.Twins aspect other) (hbench : bench.Twins aspect benchOther)
    (announce : Announce) :
    (dispatcher.drain bench announce).Twins aspect (other.drain benchOther announce) := by
  have drained := h.drainUpTo hbench announce drainLimit
  have counted : (Dispatcher.drainUpTo announce drainLimit other benchOther).count =
      (Dispatcher.drainUpTo announce drainLimit dispatcher bench).count := by
    rw [count_drainUpTo, count_drainUpTo, drained.outcomes]
  rw [Dispatcher.drain, Dispatcher.drain, counted]
  split
  · exact drained
  · exact ⟨drained.outcomes, drained.dispatcher, drained.bench.say fun _ => rfl⟩

end Dispatcher.Twins

end RadioInterrupt
