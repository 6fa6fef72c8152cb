import RadioInterrupt.Dispatcher
import RadioInterrupt.Proofs.Reports

/-!
# What a dispatch leaves

A dispatch that finds a handler runs it once on a recorder that is not settled; a dispatch that
finds none touches nothing but counters and the log.  `Dispatcher.reports` lists what is reported
during a dispatch.  Each part of the dispatcher afterwards is a function of that part before and of
the first report: one lemma for each part, and later proofs open no definition of a dispatch.
-/

namespace RadioInterrupt

/-! ## One run of a handler -/

namespace Handler

def run (handler : Handler) (recorder : Recorder) (bench : Bench) : Recorder × Bench :=
  (handler.start bench).1.run recorder (handler.start bench).2

def reports (handler : Handler) (recorder : Recorder) (bench : Bench) : List Report :=
  (handler.start bench).1.reports recorder (handler.start bench).2

def after : Handler → Nat → Handler
  | .routine behaviour runs, more => .routine behaviour (runs + more)
  | .chipLine number, _ => .chipLine number
  | .chipTimer number report, _ => .chipTimer number report

@[simp] theorem after_zero (handler : Handler) : handler.after 0 = handler := by
  cases handler <;> rfl

theorem advance_after (handler : Handler) (runs : Nat) :
    (handler.after runs).advance = handler.after (runs + 1) := by
  cases handler <;> rfl

theorem after_advance (handler : Handler) (runs : Nat) :
    handler.advance.after runs = handler.after (runs + 1) := by
  cases handler with
  | routine behaviour past => exact congrArg (routine behaviour) (Nat.add_right_comm past 1 runs)
  | chipLine number => rfl
  | chipTimer number report => rfl

theorem notices_start (handler : Handler) (bench : Bench) :
    (handler.start bench).2.notices = bench.notices := by
  cases handler with
  | routine behaviour runs => rfl
  | chipLine number =>
      cases hserviced : (bench.chips number).service with
      | none => simp [start, hserviced, Message.isDropNotice]
      | some serviced => simp [start, hserviced]
  | chipTimer number report => rfl

theorem run_of_busy (handler : Handler) {recorder : Recorder} (h : recorder.outcome = .busy)
    (bench : Bench) :
    (handler.run recorder bench).1 = recorder.settle (handler.reports recorder bench).head? :=
  Recorder.run_of_busy h _ _

theorem notices_run_of_busy (handler : Handler) {recorder : Recorder}
    (h : recorder.outcome = .busy) (bench : Bench) :
    (handler.run recorder bench).2.notices =
      bench.notices ++ dropNotices (handler.reports recorder bench) := by
  rw [run, Recorder.notices_run_of_busy h, notices_start]
  rfl

end Handler

/-! ## Handlers in the tables -/

theorem Slot.line_val_inj {a b : Fin 6} : a.val = b.val ↔ Slot.line a = Slot.line b := by
  rw [Fin.val_inj, Slot.line.injEq]

theorem Slot.timer_index_inj {a b : Timer} :
    a.index.val = b.index.val ↔ Slot.timer a = Slot.timer b := by
  rw [Fin.val_inj, Slot.timer.injEq]
  constructor
  · exact Timer.index_injective
  · rintro rfl
    rfl

namespace Registry

def change (registry : Registry) (slot : Slot) (alter : Handler → Handler) : Registry :=
  match slot with
  | .line index => { registry with lines := registry.lines.modify index alter }
  | .timer timer => { registry with timers := registry.timers.modify timer.index alter }

theorem advance_eq_change (registry : Registry) (slot : Slot) :
    registry.advance slot = registry.change slot Handler.advance := by
  cases slot <;> rfl

theorem handler?_change (registry : Registry) (slot : Slot) (alter : Handler → Handler)
    (other : Slot) :
    (registry.change slot alter).handler? other =
      if other = slot then (registry.handler? other).map alter else registry.handler? other := by
  cases slot with
  | line index =>
      cases other with
      | line place =>
          change (registry.lines.modify index alter).get? place = _
          rw [SlotTable.get?_modify]
          simp only [Slot.line_val_inj]
          rfl
      | timer timer => rfl
  | timer timer =>
      cases other with
      | line place => rfl
      | timer place =>
          change (registry.timers.modify timer.index alter).get? place.index = _
          rw [SlotTable.get?_modify]
          simp only [Slot.timer_index_inj]
          rfl

end Registry

/-! ## The recorder after the first report -/

def Report.frame? : Report → Option Frame
  | .rxDone frame => some frame
  | _ => none

namespace Recorder

theorem outcome_settle {recorder : Recorder} (h : recorder.outcome = .busy)
    (first : Option Report) :
    (recorder.settle first).outcome = first.elim .busy Report.outcome := by
  cases first with
  | none => exact h
  | some report => exact outcome_accept_of_busy h report

theorem info_settle {recorder : Recorder} (h : recorder.outcome = .busy)
    (first : Option Report) :
    (recorder.settle first).info =
      (first.bind Report.frame?).elim recorder.info FrameInfo.ofFrame := by
  cases first with
  | none => rfl
  | some report => cases report <;> simp [accept, h, takeFrame, Report.frame?]

theorem inbox_settle {recorder : Recorder} (h : recorder.outcome = .busy)
    (first : Option Report) :
    (recorder.settle first).inbox =
      (first.bind Report.frame?).elim recorder.inbox fun frame =>
        (recorder.inbox.fill frame.payload).1 := by
  cases first with
  | none => rfl
  | some report => cases report <;> simp [accept, h, takeFrame, Report.frame?]

end Recorder

def Counters.countFrame (counters : Counters) (payload : Bytes) : Option Bytes → Counters
  | none => { counters with rxUnbuffered := counters.rxUnbuffered + 1 }
  | some buffer =>
      if buffer.length < payload.length then
        { counters with rxTruncated := counters.rxTruncated + 1 }
      else counters

theorem Recorder.counters_settle {recorder : Recorder} (h : recorder.outcome = .busy)
    (first : Option Report) :
    (recorder.settle first).counters =
      (first.bind Report.frame?).elim recorder.counters fun frame =>
        recorder.counters.countFrame frame.payload recorder.inbox.registered := by
  cases first with
  | none => rfl
  | some report =>
      cases report with
      | rxDone frame =>
          have copied := recorder.inbox.copy_fill frame.payload
          cases hbuffer : recorder.inbox.registered with
          | none =>
              rw [hbuffer] at copied
              simp [accept, h, takeFrame, copied, Report.frame?, Counters.countFrame]
          | some buffer =>
              rw [hbuffer] at copied
              have hcut : min frame.payload.length buffer.length < frame.payload.length ↔
                  buffer.length < frame.payload.length := by
                omega
              by_cases cut : buffer.length < frame.payload.length <;>
                simp [accept, h, takeFrame, copied, Report.frame?, Counters.countFrame,
                  Copy.truncated, hcut, cut]
      | txDone | txTimeout | rxTimeout | rxError => simp [accept, h, Report.frame?]

/-! ## The dispatcher after a dispatch -/

def Event.unhandled (event : Event) : Except Unconfigured Outcome :=
  match event.slot with
  | .line index => .error ⟨event, index⟩
  | .timer _ => .ok .busy

namespace Dispatcher

/-- What is reported while an event is dispatched. -/
def reports (dispatcher : Dispatcher) (event : Event) (bench : Bench) : List Report :=
  (dispatcher.handler? event.slot).elim [] fun handler =>
    handler.reports dispatcher.begin.toRecorder bench

def accepted (dispatcher : Dispatcher) (event : Event) (bench : Bench) : Option Frame :=
  (dispatcher.reports event bench).head?.bind Report.frame?

variable {dispatcher : Dispatcher} {event : Event} {handler : Handler}

theorem reports_of_none (h : dispatcher.handler? event.slot = none) (bench : Bench) :
    dispatcher.reports event bench = [] := by
  rw [reports, h]
  rfl

theorem reports_of_some (h : dispatcher.handler? event.slot = some handler) (bench : Bench) :
    dispatcher.reports event bench = handler.reports dispatcher.begin.toRecorder bench := by
  rw [reports, h]
  rfl

theorem dispatch_of_handler (h : dispatcher.handler? event.slot = some handler)
    (bench : Bench) :
    dispatcher.dispatch event bench =
      dispatcher.begin.endHandled event (handler.run dispatcher.begin.toRecorder bench).1
        (handler.run dispatcher.begin.toRecorder bench).2 :=
  dispatch_of_some h bench

theorem recorder_of_some (h : dispatcher.handler? event.slot = some handler) (bench : Bench) :
    (handler.run dispatcher.begin.toRecorder bench).1 =
      dispatcher.begin.toRecorder.settle (dispatcher.reports event bench).head? := by
  rw [handler.run_of_busy dispatcher.outcome_begin, reports_of_some h]

theorem result_of_none (h : dispatcher.handler? event.slot = none) (bench : Bench) :
    (dispatcher.dispatch event bench).result = event.unhandled := by
  rw [dispatch_of_none h, Event.unhandled, endUnhandled]
  cases event.slot <;> rfl

theorem result_of_unconfigured (absent : dispatcher.isConfigured event = false) (bench : Bench) :
    (dispatcher.dispatch event bench).result = event.unhandled := by
  rw [isConfigured, Option.isSome_eq_false_iff, Option.isNone_iff_eq_none] at absent
  exact result_of_none absent bench

theorem result_of_some (h : dispatcher.handler? event.slot = some handler) (bench : Bench) :
    (dispatcher.dispatch event bench).result =
      .ok ((dispatcher.reports event bench).head?.elim .busy Report.outcome) := by
  rw [dispatch_of_handler h]
  change Except.ok (handler.run _ _).1.outcome = _
  rw [recorder_of_some h, Recorder.outcome_settle dispatcher.outcome_begin]

theorem outcome_dispatch (dispatcher : Dispatcher) (event : Event) (bench : Bench) :
    (dispatcher.dispatch event bench).dispatcher.outcome =
      (dispatcher.reports event bench).head?.elim .busy Report.outcome := by
  cases h : dispatcher.handler? event.slot with
  | none =>
      rw [dispatch_of_none h, reports_of_none h, endUnhandled]
      cases event.slot <;> rfl
  | some handler =>
      rw [dispatch_of_handler h]
      change (handler.run _ _).1.outcome = _
      rw [recorder_of_some h, Recorder.outcome_settle dispatcher.outcome_begin]

theorem info_dispatch (dispatcher : Dispatcher) (event : Event) (bench : Bench) :
    (dispatcher.dispatch event bench).dispatcher.info =
      (dispatcher.accepted event bench).elim dispatcher.info FrameInfo.ofFrame := by
  cases h : dispatcher.handler? event.slot with
  | none =>
      rw [dispatch_of_none h, accepted, reports_of_none h, endUnhandled]
      cases event.slot <;> rfl
  | some handler =>
      rw [dispatch_of_handler h]
      change (handler.run _ _).1.info = _
      rw [recorder_of_some h, Recorder.info_settle dispatcher.outcome_begin]
      rfl

theorem inbox_dispatch (dispatcher : Dispatcher) (event : Event) (bench : Bench) :
    (dispatcher.dispatch event bench).dispatcher.inbox =
      (dispatcher.accepted event bench).elim dispatcher.inbox fun frame =>
        (dispatcher.inbox.fill frame.payload).1 := by
  cases h : dispatcher.handler? event.slot with
  | none =>
      rw [dispatch_of_none h, accepted, reports_of_none h, endUnhandled]
      cases event.slot <;> rfl
  | some handler =>
      rw [dispatch_of_handler h]
      change (handler.run _ _).1.inbox = _
      rw [recorder_of_some h, Recorder.inbox_settle dispatcher.outcome_begin]
      rfl

theorem handler?_dispatch (dispatcher : Dispatcher) (event : Event) (bench : Bench)
    (slot : Slot) :
    (dispatcher.dispatch event bench).dispatcher.handler? slot =
      if slot = event.slot then (dispatcher.handler? slot).map Handler.advance
      else dispatcher.handler? slot := by
  cases h : dispatcher.handler? event.slot with
  | none =>
      have same : (dispatcher.dispatch event bench).dispatcher.toRegistry =
          dispatcher.toRegistry := by
        rw [dispatch_of_none h, endUnhandled]
        cases event.slot <;> rfl
      rw [same]
      split
      · next hslot => rw [hslot, h, Option.map_none]
      · rfl
  | some handler =>
      rw [dispatch_of_handler h]
      change (dispatcher.toRegistry.advance event.slot).handler? slot = _
      rw [Registry.advance_eq_change, Registry.handler?_change]

end Dispatcher

end RadioInterrupt
