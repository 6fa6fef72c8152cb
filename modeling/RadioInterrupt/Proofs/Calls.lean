import RadioInterrupt.Proofs.Installation
import RadioInterrupt.Transceiver

/-!
# What a call of a transceiver comes to

A call gives the driver one command or none, and `Transceiver.command?` says which.  With a command
the driver's answer ends the call; without one the call is a dispatch or is ended by the transceiver
alone.  `Transceiver.driverCalls` is not a plan but a record: it lists what an observed driver is
called with while the call is made.
-/

namespace RadioInterrupt

def Call.isDispatch : Call → Bool
  | .handle _ => true
  | _ => false

def Call.outgoing? (frame : Bytes) : Call → Option Bytes
  | .send payload => some payload
  | .sendFrame => some frame
  | _ => none

def Call.settingsAfter (settings : Settings) : Call → Settings
  | .setHopping hopping => { settings with hopping }
  | .invertTransmitIq invert => { settings with invertTransmitIq := invert }
  | .invertReceiveIq invert => { settings with invertReceiveIq := invert }
  | .setSymbolTimeout symbols => { settings with symbolTimeout := symbols }
  | _ => settings

def Call.dispatcherAfter (dispatcher : Dispatcher) (bench : Bench) : Call → Dispatcher
  | .handle event => (dispatcher.dispatch event bench).dispatcher
  | .listen => Transceiver.prepareBuffer dispatcher
  | .release => dispatcher.takeBuffer
  | _ => dispatcher

theorem Call.isDispatch_of_outgoing {call : Call} {frame outgoing : Bytes}
    (h : call.outgoing? frame = some outgoing) : call.isDispatch = false := by
  cases call with
  | handle event => simp [outgoing?] at h
  | _ => rfl

namespace Transceiver

variable {δ β ε : Type}

/-! ## Plans -/

def command? (radio : Transceiver δ) : Call → Option Command
  | .send payload => if maxPayload < payload.length then none else some (.send payload)
  | .sendFrame => if maxPayload < radio.frame.length then none else some (.send radio.frame)
  | .listen => some (.receive 0)
  | .configureLoraTransmit power bandwidth factor rate =>
      some (.configureTransmit (radio.settings.loraTransmit power bandwidth factor rate))
  | .configureLoraReceive bandwidth factor rate =>
      some (.configureReceive (radio.settings.loraReceive bandwidth factor rate))
  | .configureFskTransmit power deviation datarate =>
      some (.configureTransmit (radio.settings.fskTransmit power deviation datarate))
  | .setFrequency hertz => some (.setChannel hertz)
  | .setPublicNetwork enable => some (.setPublicNetwork enable)
  | _ => none

def remarks (radio : Transceiver δ) : Call → List Message
  | .send payload => if maxPayload < payload.length then [] else [.sending payload.length]
  | .sendFrame => if maxPayload < radio.frame.length then [] else [.sending radio.frame.length]
  | .configureLoraTransmit power bandwidth factor rate =>
      [.transmitConfigured power bandwidth factor rate]
  | _ => []

def prepared (radio : Transceiver δ) : Call → Transceiver δ
  | .send payload =>
      if maxPayload < payload.length then radio else { radio with frame := payload }
  | .listen => { radio with dispatcher := prepareBuffer radio.dispatcher }
  | .release => radio.release
  | .setFrame bytes => { radio with frame := bytes }
  | call => { radio with settings := call.settingsAfter radio.settings }

theorem driver_prepared (radio : Transceiver δ) (call : Call) :
    (radio.prepared call).driver = radio.driver := by
  cases call with
  | send payload =>
      simp only [prepared]
      split <;> rfl
  | _ => rfl

theorem command?_of_outgoing {radio : Transceiver δ} {call : Call} {frame : Bytes}
    (outgoing : call.outgoing? radio.frame = some frame) :
    radio.command? call = if maxPayload < frame.length then none else some (.send frame) := by
  cases call with
  | send payload | sendFrame =>
      cases outgoing
      rfl
  | _ => cases outgoing

theorem prepared_of_long {radio : Transceiver δ} {call : Call} {frame : Bytes}
    (outgoing : call.outgoing? radio.frame = some frame) (long : maxPayload < frame.length) :
    radio.prepared call = radio := by
  cases call with
  | send payload =>
      simp only [Call.outgoing?, Option.some.injEq] at outgoing
      simp [prepared, outgoing, long]
  | sendFrame => rfl
  | _ => simp [Call.outgoing?] at outgoing

/-! ## The three kinds of calls -/

variable [Driver δ β ε] {radio : Transceiver δ} {call : Call} {command : Command}

theorem call_of_command (h : radio.command? call = some command) (bench : Bench) :
    radio.call call bench =
      let told := Driver.perform radio.driver command (bench.say (radio.remarks call))
      ⟨(told.1.mapError .driver).map fun _ => .done,
        { radio.prepared call with driver := told.2.1 }, told.2.2⟩ := by
  cases call with
  | send payload | sendFrame =>
      rw [command?] at h
      split at h
      · cases h
      · next fits =>
          cases h
          simp only [Transceiver.call, send, sendFrame, prepared, remarks, if_neg fits]
          rfl
  | configureLoraTransmit power bandwidth factor rate =>
      cases h
      rfl
  | listen | configureLoraReceive bandwidth factor rate
  | configureFskTransmit power deviation datarate | setFrequency hertz
  | setPublicNetwork enable =>
      cases h
      simp only [remarks, Bench.say_nil]
      rfl
  | handle event | release | setHopping hopping | invertTransmitIq invert
  | invertReceiveIq invert | setSymbolTimeout symbols | setFrame bytes => cases h

theorem call_of_quiet (h : radio.command? call = none) (hcall : call.isDispatch = false)
    (bench : Bench) :
    radio.call call bench =
      ⟨(call.outgoing? radio.frame).elim (.ok .done) fun frame =>
          .error (.payloadTooLarge frame.length maxPayload),
        radio.prepared call, bench⟩ := by
  cases call with
  | send payload | sendFrame =>
      rw [command?] at h
      split at h
      · next long =>
          simp only [Transceiver.call, send, sendFrame, prepared, if_pos long]
          rfl
      · cases h
  | handle event => cases hcall
  | release | setHopping hopping | invertTransmitIq invert | invertReceiveIq invert
  | setSymbolTimeout symbols | setFrame bytes => rfl
  | listen | configureLoraTransmit power bandwidth factor rate
  | configureLoraReceive bandwidth factor rate | configureFskTransmit power deviation datarate
  | setFrequency hertz | setPublicNetwork enable => cases h

theorem call_of_long {frame : Bytes} (outgoing : call.outgoing? radio.frame = some frame)
    (long : maxPayload < frame.length) (bench : Bench) :
    radio.call call bench =
      ⟨.error (.payloadTooLarge frame.length maxPayload), radio, bench⟩ := by
  have quiet : radio.command? call = none := by simp [command?_of_outgoing outgoing, long]
  rw [call_of_quiet quiet (Call.isDispatch_of_outgoing outgoing), outgoing,
    prepared_of_long outgoing long]
  rfl

theorem remarks_of_quiet (h : radio.command? call = none) : radio.remarks call = [] := by
  cases call with
  | send payload | sendFrame =>
      rw [command?] at h
      split at h
      · next long => rw [remarks, if_pos long]
      · cases h
  | configureLoraTransmit power bandwidth factor rate => cases h
  | _ => rfl

theorem call_handle (radio : Transceiver δ) (event : Event) (bench : Bench) :
    radio.call (.handle event) bench = (radio.handle event bench).map .response := rfl

omit [Driver δ β ε] in
theorem handle_eq (radio : Transceiver δ) (event : Event) (bench : Bench) :
    radio.handle (ε := ε) event bench =
      let run := radio.dispatcher.dispatch event bench
      ⟨(run.result.mapError .dispatch).map fun outcome =>
          .ofOutcome outcome run.dispatcher.info,
        { radio with
          dispatcher := run.dispatcher
          frame := run.result.toOption.elim radio.frame
            (frameAfter radio.frame run.dispatcher) },
        run.bench⟩ := by
  rw [handle]
  cases h : (radio.dispatcher.dispatch event bench).result <;> simp only [h] <;> rfl

theorem exists_event_of_isDispatch (h : call.isDispatch = true) :
    ∃ event, call = .handle event := by
  cases call with
  | handle event => exact ⟨event, rfl⟩
  | _ => cases h

theorem radio_call (hcall : call.isDispatch = false) (bench : Bench) :
    (radio.call call bench).radio =
      { radio.prepared call with driver := (radio.call call bench).radio.driver } := by
  cases h : radio.command? call with
  | some command => rw [call_of_command h]
  | none =>
      rw [call_of_quiet h hcall]

/-! ## Settings and dispatcher after a call -/

omit [Driver δ β ε] in
theorem dispatcher_handle (radio : Transceiver δ) (event : Event) (bench : Bench) :
    (radio.handle (ε := ε) event bench).radio.dispatcher =
      (radio.dispatcher.dispatch event bench).dispatcher := by
  rw [handle_eq]

omit [Driver δ β ε] in
theorem settings_prepared (radio : Transceiver δ) (call : Call) :
    (radio.prepared call).settings = call.settingsAfter radio.settings := by
  cases call with
  | send payload =>
      simp only [prepared]
      split <;> rfl
  | _ => rfl

theorem settings_call (radio : Transceiver δ) (call : Call) (bench : Bench) :
    (radio.call call bench).radio.settings = call.settingsAfter radio.settings := by
  cases h : call.isDispatch with
  | true =>
      obtain ⟨event, rfl⟩ := exists_event_of_isDispatch h
      rw [call_handle, handle_eq]
      rfl
  | false =>
      rw [radio_call h]
      exact settings_prepared radio call

theorem dispatcher_call (radio : Transceiver δ) (call : Call) (bench : Bench) :
    (radio.call call bench).radio.dispatcher = call.dispatcherAfter radio.dispatcher bench := by
  cases h : call.isDispatch with
  | true =>
      obtain ⟨event, rfl⟩ := exists_event_of_isDispatch h
      exact radio.dispatcher_handle event bench
  | false =>
      rw [radio_call h]
      cases call with
      | handle event => cases h
      | send payload =>
          simp only [prepared]
          split <;> rfl
      | _ => rfl

/-! ## The calls that reach the driver -/

def observed (radio : Transceiver δ) (calls : List DriverCall) : Transceiver (Observed δ) where
  driver := ⟨radio.driver, calls⟩
  dispatcher := radio.dispatcher
  settings := radio.settings
  frame := radio.frame

/-- What the driver is called with while a call is made, in order. -/
def driverCalls (radio : Transceiver δ) (call : Call) (bench : Bench) : List DriverCall :=
  ((radio.observed []).call call bench).radio.driver.calls

theorem prepared_observed (radio : Transceiver δ) (calls : List DriverCall) (call : Call) :
    (radio.observed calls).prepared call = (radio.prepared call).observed calls := by
  cases call with
  | send payload =>
      simp only [prepared]
      split <;> rfl
  | _ => rfl

theorem call_observed (radio : Transceiver δ) (calls : List DriverCall) (call : Call)
    (bench : Bench) :
    (radio.observed calls).call call bench =
      let run := radio.call call bench
      ⟨run.result, run.radio.observed (calls ++ (radio.command? call).toList.map .perform),
        run.bench⟩ := by
  have same : (radio.observed calls).command? call = radio.command? call := by
    cases call <;> rfl
  cases h : radio.command? call with
  | some command =>
      rw [h] at same
      rw [call_of_command same, call_of_command h, prepared_observed]
      rfl
  | none =>
      rw [h] at same
      rw [Option.toList_none, List.map_nil, List.append_nil]
      cases call with
      | handle event =>
          rw [call_handle, call_handle, handle_eq, handle_eq]
          rfl
      | _ =>
          rw [call_of_quiet same rfl, call_of_quiet h rfl, prepared_observed]
          rfl

theorem driverCalls_eq (radio : Transceiver δ) (call : Call) (bench : Bench) :
    radio.driverCalls call bench = (radio.command? call).toList.map .perform := by
  rw [driverCalls, call_observed]
  rfl

theorem driverCalls_of_long {frame : Bytes} (outgoing : call.outgoing? radio.frame = some frame)
    (long : maxPayload < frame.length) (bench : Bench) : radio.driverCalls call bench = [] := by
  rw [driverCalls_eq, command?_of_outgoing outgoing, if_pos long]
  rfl

theorem perform_mem_driverCalls_iff {bench : Bench} :
    .perform command ∈ radio.driverCalls call bench ↔ radio.command? call = some command := by
  simp [driverCalls_eq]

end Transceiver

end RadioInterrupt
