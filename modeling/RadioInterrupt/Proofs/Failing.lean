import RadioInterrupt.Proofs.Usage
import RadioInterrupt.Script

/-!
# What a failed call leaves

A call fails in one of three ways (`Transceiver.failed_cases`).  A frame that is too long is found
before anything is changed.  A line without a handler is found after a dispatch has begun, so that
the last outcome is forgotten and the dispatch is counted.  A driver fails when the transceiver has
got ready for it: a frame that was to be sent is in the frame buffer, and a buffer to receive into
is registered.
-/

namespace RadioInterrupt

theorem Dispatcher.dispatch_of_error {dispatcher : Dispatcher} {event : Event} {bench : Bench}
    {fault : Unconfigured} (h : (dispatcher.dispatch event bench).result = .error fault) :
    ∃ index : Fin 6, event.slot = .line index ∧ fault = ⟨event, index⟩ ∧
      dispatcher.handler? event.slot = none ∧
      dispatcher.dispatch event bench =
        { result := .error fault
          dispatcher := { dispatcher with
            outcome := .busy
            counters := { dispatcher.counters with
              dispatched := dispatcher.counters.dispatched + 1
              unconfigured := dispatcher.counters.unconfigured + 1 } }
          bench := bench.say [.lineUnconfigured event index] } := by
  cases held : dispatcher.handler? event.slot with
  | some handler =>
      rw [result_of_some held] at h
      cases h
  | none =>
      rw [dispatch_of_none held, endUnhandled] at h
      rw [dispatch_of_none held, endUnhandled]
      cases hslot : event.slot with
      | timer timer => simp [hslot] at h
      | line index =>
          simp only [hslot, Except.error.injEq] at h
          subst h
          exact ⟨index, rfl, rfl, rfl, rfl⟩

namespace Transceiver

variable {δ β ε : Type} {radio : Transceiver δ} {call : Call} {command : Command} {bench : Bench}

theorem prepared_of_command (h : radio.command? call = some command) :
    radio.prepared call =
      { radio with
        frame := (call.outgoing? radio.frame).getD radio.frame
        dispatcher :=
          if call = .listen then prepareBuffer radio.dispatcher else radio.dispatcher } := by
  cases call with
  | send payload =>
      simp only [command?] at h
      split at h
      · contradiction
      · next fits => simp [prepared, fits, Call.outgoing?]
  | handle | release | setHopping | invertTransmitIq | invertReceiveIq | setSymbolTimeout
  | setFrame => simp [command?] at h
  | _ => rfl

theorem prepareBuffer_eq (dispatcher : Dispatcher) :
    prepareBuffer dispatcher =
      { dispatcher with inbox := (prepareBuffer dispatcher).inbox } := by
  unfold prepareBuffer
  split <;> rfl

theorem registered_prepareBuffer_of_other {dispatcher : Dispatcher}
    (other : ∀ bytes, dispatcher.inbox.registered = some bytes → bytes.length ≠ maxPayload) :
    (prepareBuffer dispatcher).inbox.registered = some (List.replicate maxPayload 0) := by
  unfold prepareBuffer
  split
  · next full =>
      obtain ⟨bytes, held, length⟩ := Option.map_eq_some_iff.mp full
      exact absurd length (other bytes held)
  · rfl

variable [Driver δ β ε]

theorem call_of_fault {event : Event} {fault : Unconfigured}
    (h : (radio.dispatcher.dispatch event bench).result = .error fault) :
    radio.call (.handle event) bench =
      let run := radio.dispatcher.dispatch event bench
      ⟨.error (.dispatch fault), { radio with dispatcher := run.dispatcher }, run.bench⟩ := by
  simp only [call_handle, handle_eq, CallRun.map, h]
  rfl

theorem call_of_refusal {reason : ε} (h : radio.command? call = some command)
    (refused : (Driver.perform radio.driver command (bench.say (radio.remarks call))).1 =
      .error reason) :
    radio.call call bench =
      let told := Driver.perform radio.driver command (bench.say (radio.remarks call))
      ⟨.error (.driver reason),
        { driver := told.2.1
          settings := radio.settings
          frame := (call.outgoing? radio.frame).getD radio.frame
          dispatcher :=
            if call = .listen then prepareBuffer radio.dispatcher else radio.dispatcher },
        told.2.2⟩ := by
  simp only [call_of_command h, prepared_of_command h, refused]
  rfl

theorem failed_cases {error : RadioError ε} (h : (radio.call call bench).result = .error error) :
    (∃ frame, call.outgoing? radio.frame = some frame ∧ maxPayload < frame.length ∧
      error = .payloadTooLarge frame.length maxPayload) ∨
    (∃ event fault, call = .handle event ∧ error = .dispatch fault ∧
      (radio.dispatcher.dispatch event bench).result = .error fault) ∨
    ∃ command reason, radio.command? call = some command ∧ error = .driver reason ∧
      (Driver.perform radio.driver command (bench.say (radio.remarks call))).1 = .error reason := by
  cases hcommand : radio.command? call with
  | some command =>
      simp only [call_of_command hcommand] at h
      cases told : (Driver.perform radio.driver command (bench.say (radio.remarks call))).1 with
      | ok done =>
          rw [told] at h
          cases h
      | error reason =>
          rw [told] at h
          cases h
          exact .inr (.inr ⟨command, reason, rfl, rfl, told⟩)
  | none =>
      cases kind : call.isDispatch with
      | true =>
          obtain ⟨event, rfl⟩ := exists_event_of_isDispatch kind
          simp only [call_handle, handle_eq, CallRun.map] at h
          cases result : (radio.dispatcher.dispatch event bench).result with
          | ok outcome =>
              rw [result] at h
              cases h
          | error fault =>
              rw [result] at h
              cases h
              exact .inr (.inl ⟨event, fault, rfl, rfl, result⟩)
      | false =>
          rw [call_of_quiet hcommand kind] at h
          cases outgoing : call.outgoing? radio.frame with
          | none => simp [outgoing] at h
          | some frame =>
              rw [command?_of_outgoing outgoing] at hcommand
              split at hcommand
              · next long =>
                  simp only [outgoing, Option.elim_some, Except.error.injEq] at h
                  exact .inl ⟨frame, rfl, long, h.symm⟩
              · contradiction

/-- A call that fails leaves the settings as they were.  A frame that is too long leaves everything
so.  A line without a handler leaves all but the outcome and two counters, and the driver is not
called for either of them.  The error of a driver is that of its only call; it leaves of the
dispatcher all but a buffer that is to be received into, and a frame that was to be sent is in the
frame buffer. -/
theorem failed_call_leaves (radio : Transceiver δ) (call : Call) (bench : Bench)
    {error : RadioError ε} (h : (radio.call call bench).result = .error error) :
    let run := radio.call call bench
    let calls := radio.driverCalls call bench
    let before := radio.dispatcher
    let after := run.radio.dispatcher
    run.radio.settings = radio.settings ∧
    (∀ fault, error ≠ .settings fault) ∧
    (∀ size limit, error = .payloadTooLarge size limit →
      calls = [] ∧ run.radio = radio ∧ run.bench = bench ∧ limit = 255 ∧ limit < size) ∧
    (∀ fault, error = .dispatch fault →
      ∃ event, call = .handle event ∧ fault.event = event ∧
        before.handler? event.slot = none ∧ before.reports event bench = [] ∧ calls = [] ∧
        run.radio.driver = radio.driver ∧ run.radio.frame = radio.frame ∧
        after =
          { before with
            outcome := .busy
            counters := { before.counters with
              dispatched := before.counters.dispatched + 1
              unconfigured := before.counters.unconfigured + 1 } } ∧
        run.bench = bench.say [.lineUnconfigured event fault.slot]) ∧
    (∀ reason, error = .driver reason →
      (∃ command, calls = [.perform command] ∧
        let told := Driver.perform radio.driver command (bench.say (radio.remarks call))
        told.1 = .error reason ∧ run.radio.driver = told.2.1 ∧ run.bench = told.2.2) ∧
      after.toRegistry = before.toRegistry ∧ after.outcome = before.outcome ∧
      after.info = before.info ∧ after.counters = before.counters ∧
      (∀ payload, call = .send payload → run.radio.frame = payload) ∧
      ((∀ payload, call ≠ .send payload) → run.radio.frame = radio.frame) ∧
      (call ≠ .listen → after.inbox = before.inbox) ∧
      (call = .listen →
        (∀ bytes, before.inbox.registered = some bytes → bytes.length = 255 →
          after.inbox = before.inbox) ∧
        ((∀ bytes, before.inbox.registered = some bytes → bytes.length ≠ 255) →
          after.inbox.registered = some (List.replicate 255 0)))) := by
  intro run calls before after
  rcases failed_cases h with ⟨frame, outgoing, long, rfl⟩ | ⟨event, fault, rfl, rfl, unhandled⟩ |
    ⟨command, reason, planned, rfl, refused⟩
  · have same := call_of_long outgoing long bench
    refine ⟨by simp [run, same], by simp, ?_, by rintro _ ⟨⟩, by rintro _ ⟨⟩⟩
    rintro size limit ⟨⟩
    exact ⟨driverCalls_of_long outgoing long bench, by simp [run, same], by simp [run, same], rfl,
      long⟩
  · obtain ⟨index, line, rfl, absent, ended⟩ := Dispatcher.dispatch_of_error unhandled
    have same := call_of_fault (ε := ε) unhandled
    rw [ended] at same
    refine ⟨by simp [run, same], by simp, by rintro _ _ ⟨⟩, ?_, by rintro _ ⟨⟩⟩
    rintro fault ⟨⟩
    refine ⟨event, rfl, rfl, absent, Dispatcher.reports_of_none absent bench, ?_⟩
    simp [run, calls, after, before, same, driverCalls_eq, command?]
  · have same := call_of_refusal planned refused
    refine ⟨by simp [run, same], by simp, by rintro _ _ ⟨⟩, by rintro _ ⟨⟩, ?_⟩
    rintro reason ⟨⟩
    refine ⟨⟨command, by simp [calls, driverCalls_eq, planned], refused, by simp [run, same],
      by simp [run, same]⟩, ?_⟩
    -- What the transceiver had got ready stays: a frame to send, or a buffer to receive into.
    have left : after = if call = .listen then prepareBuffer before else before := by
      simp only [after, run, same, before]
    have frame : run.radio.frame = (call.outgoing? radio.frame).getD radio.frame := by
      simp only [run, same]
    have rest : after = { before with inbox := after.inbox } := by
      rw [left]
      split
      · exact prepareBuffer_eq before
      · rfl
    refine ⟨by rw [rest], by rw [rest], by rw [rest], by rw [rest], ?_, ?_, ?_, ?_⟩
    · rintro payload rfl
      exact frame
    · intro unsent
      cases call with
      | send payload => exact absurd rfl (unsent payload)
      | _ => exact frame
    · intro other
      rw [left, if_neg other]
    · intro listens
      rw [left, if_pos listens]
      refine ⟨fun bytes held full => ?_, registered_prepareBuffer_of_other⟩
      simp [prepareBuffer, held, full, maxPayload]

/-- A driver that cannot receive, a line without a handler and a frame of 256 bytes. -/
theorem failed_call_leaves_three :
    let driver : ScriptedDriver := ScriptedDriver.setFailure {} "rx" (some "stuck")
    let radio : Transceiver ScriptedDriver :=
      { driver, dispatcher := { outcome := .txDone }, settings := {}, frame := [7] }
    let listening := radio.call .listen {}
    let handling := radio.call (.handle (.line 4)) {}
    let long : Bytes := List.replicate 256 0
    let sending := radio.call (.send long) {}
    listening.result = .error (.driver "stuck") ∧
      listening.radio.dispatcher.inbox.registered = some (List.replicate 255 0) ∧
      listening.radio.dispatcher.outcome = .txDone ∧ listening.radio.frame = [7] ∧
    handling.result = .error (.dispatch ⟨.line 4, 4⟩) ∧
      handling.radio.dispatcher.outcome = .busy ∧
      handling.radio.dispatcher.counters = { dispatched := 1, unconfigured := 1 } ∧
    sending.result = .error (.payloadTooLarge 256 255) ∧ sending.radio = radio := by
  intro driver radio listening handling long sending
  have refused : listening.result = .error (.driver "stuck") := rfl
  have absent : handling.result = .error (.dispatch ⟨.line 4, 4⟩) := rfl
  have length : long.length = 256 := List.length_replicate
  have cut : sending.result = .error (.payloadTooLarge 256 255) := by
    have tooLong : maxPayload < long.length := by simp [length, maxPayload]
    rw [show sending = _ from call_of_long rfl tooLong {}, length, maxPayload]
  obtain ⟨_, _, _, _, atDriver⟩ := failed_call_leaves radio .listen {} refused
  obtain ⟨_, _, outcome, _, _, _, frame, _, buffer⟩ := atDriver "stuck" rfl
  obtain ⟨_, _, _, atDispatch, _⟩ := failed_call_leaves radio (.handle (.line 4)) {} absent
  obtain ⟨_, _, _, _, _, _, _, _, left, _⟩ := atDispatch _ rfl
  obtain ⟨_, _, atLength, _, _⟩ := failed_call_leaves radio (.send long) {} cut
  refine ⟨refused, (buffer rfl).2 nofun, outcome, frame nofun, absent, ?_, ?_, cut,
    (atLength 256 255 rfl).2.1⟩
  · exact congrArg (fun dispatcher => dispatcher.outcome) left
  · exact congrArg (fun dispatcher => dispatcher.counters) left

end Transceiver

end RadioInterrupt
