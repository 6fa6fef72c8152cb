import RadioInterrupt.Proofs.Failing
import RadioInterrupt.Proofs.Registers

/-!
# Frames on their way out

A transceiver checks the length of a frame before it tells its driver to send it, and hands over the
frame as it is.  A simulated chip keeps what it was made to send, and nothing else adds to that: its
list is the journal's list of calls that sent a frame.
-/

namespace RadioInterrupt

namespace Transceiver

variable {δ β ε : Type} {radio : Transceiver δ} {call : Call} {command : Command}

theorem payload?_of_command (h : radio.command? call = some command) :
    command.payload? = call.outgoing? radio.frame ∧
      ∀ payload ∈ command.payload?, payload.length ≤ maxPayload := by
  cases outgoing : call.outgoing? radio.frame with
  | some frame =>
      rw [command?_of_outgoing outgoing] at h
      split at h
      · cases h
      · next fits =>
          cases h
          refine ⟨rfl, fun payload sent => ?_⟩
          cases sent
          exact Nat.le_of_not_lt fits
  | none =>
      cases call with
      | send payload | sendFrame => cases outgoing
      | _ => cases h <;> exact ⟨rfl, nofun⟩

variable [Driver δ β ε]

theorem driverCalls_of_fits {frame : Bytes} (outgoing : call.outgoing? radio.frame = some frame)
    (fits : frame.length ≤ maxPayload) (bench : Bench) :
    radio.driverCalls call bench = [.perform (.send frame)] := by
  rw [driverCalls_eq, command?_of_outgoing outgoing, if_neg (Nat.not_lt.mpr fits)]
  rfl

theorem frame_of_driver_error {payload : Bytes} {bench : Bench} {error : ε}
    (h : (radio.call (.send payload) bench).result = .error (.driver error)) :
    (radio.call (.send payload) bench).radio.frame = payload ∧ payload.length ≤ maxPayload := by
  by_cases fits : payload.length ≤ maxPayload
  · refine ⟨?_, fits⟩
    rw [radio_call rfl, prepared, if_neg (Nat.not_lt.mpr fits)]
  · rw [call_of_long rfl (Nat.lt_of_not_le fits)] at h
    cases h

end Transceiver

theorem SimulatedRadio.perform_of_fits (radio : SimulatedRadio) (request : Command)
    (fits : ∀ payload ∈ request.payload?, payload.length ≤ maxPayload) (bench : Bench) :
    (radio.perform request bench).1 = .ok () := by
  cases request with
  | send payload => exact (radio.perform_send_eq_ok_iff bench payload).mpr (fits payload rfl)
  | _ => rfl

/-! ## The journal of a usage -/

def Called.sent? {ε : Type} (called : Called ε) : Option Bytes :=
  called.result.toOption.bind fun _ => called.call.outgoing? called.frame

namespace Usage

def sent {δ ε : Type} (usage : Usage δ ε) : List Bytes :=
  usage.journal.reverse.filterMap Called.sent?

/-- What happens between two calls makes the chip send nothing, and leaves the driver its chip. -/
def Step.Spares (number : Nat) : Step SimulatedRadio → Prop
  | .call _ => True
  | .arrange change =>
      ∀ bench, ((change bench).chips number).sent = (bench.chips number).sent
  | .adjust change => ∀ radio, (change radio).chip = radio.chip

theorem accepted_call (radio : Transceiver SimulatedRadio) (call : Call) (bench : Bench)
    (error : ChipError) : (radio.call call bench).result ≠ .error (.driver error) := by
  intro failed
  rcases Transceiver.failed_cases failed with
    ⟨_, _, _, long⟩ | ⟨_, _, _, unhandled, _⟩ | ⟨command, reason, planned, _, refused⟩
  · cases long
  · cases unhandled
  · obtain ⟨_, fits⟩ := Transceiver.payload?_of_command planned
    have accepted := radio.driver.perform_of_fits command fits (bench.say (radio.remarks call))
    cases accepted.symm.trans refused

theorem invariant_accepted : Invariant fun usage : Usage SimulatedRadio ChipError =>
    ∀ called ∈ usage.journal, ∀ error, called.result ≠ .error (.driver error) where
  make usage call h :=
    List.forall_mem_cons.mpr ⟨accepted_call usage.radio call usage.bench, h⟩
  arrange _ _ h := h
  adjust _ _ h := h

theorem sent?_called {δ β ε : Type} [Driver δ β ε] (radio : Transceiver δ) (call : Call)
    (bench : Bench) :
    (radio.called call bench).sent? =
      (radio.called call bench).command?.bind Command.payload? := by
  rw [Transceiver.command?_called]
  change ((radio.call call bench).result.toOption.bind fun _ => call.outgoing? radio.frame) = _
  cases planned : radio.command? call with
  | some command =>
      rw [← (Transceiver.payload?_of_command planned).1]
      cases (radio.call call bench).result <;> rfl
  | none =>
      cases outgoing : call.outgoing? radio.frame with
      | none => cases (radio.call call bench).result <;> rfl
      | some frame =>
          rw [Transceiver.command?_of_outgoing outgoing] at planned
          split at planned
          · next long =>
              rw [Transceiver.call_of_long outgoing long]
              rfl
          · contradiction

theorem invariant_sent {δ β ε : Type} [Driver δ β ε] : Invariant fun usage : Usage δ ε =>
    ∀ called ∈ usage.journal, called.sent? = called.command?.bind Command.payload? where
  make usage call h :=
    List.forall_mem_cons.mpr ⟨sent?_called usage.radio call usage.bench, h⟩
  arrange _ _ h := h
  adjust _ _ h := h

theorem stored_frames {δ ε : Type} {usage : Usage δ ε}
    (h : ∀ called ∈ usage.journal, called.sent? = called.command?.bind Command.payload?)
    (before : List Bytes) : usage.stored .frames before = before ++ usage.sent := by
  obtain ⟨radio, bench, journal⟩ := usage
  unfold stored sent
  induction journal with
  | nil => simp
  | cons called earlier ih =>
      obtain ⟨first, others⟩ := List.forall_mem_cons.mp h
      rw [List.foldr_cons, ih others, List.reverse_cons, List.filterMap_append,
        Chip.Register.store, ← List.append_assoc]
      simp only [List.filterMap_cons, List.filterMap_nil, first]
      cases called.command? with
      | none => simp
      | some command => cases sent : command.payload? <;> simp [Chip.Register.frames, sent]

theorem invariant_short {δ β ε : Type} [Driver δ β ε] : Invariant fun usage : Usage δ ε =>
    ∀ called ∈ usage.journal, ∀ payload, .perform (.send payload) ∈ called.driverCalls →
      payload.length ≤ maxPayload where
  make usage call h := by
    refine List.forall_mem_cons.mpr ⟨?_, h⟩
    intro payload handed
    have planned := Transceiver.perform_mem_driverCalls_iff.mp handed
    exact (Transceiver.payload?_of_command planned).2 payload rfl
  arrange _ _ h := h
  adjust _ _ h := h

/-- A frame of at most 255 bytes goes to the driver as it is, once, and a longer one does not go to
it at all.  A frame that the driver did not take goes to it again.  What a simulated chip has sent
are the frames of the calls that succeeded, in order, and its driver never fails. -/
theorem frames_reach_driver :
    (∀ {δ β ε : Type} [Driver δ β ε] (start : Transceiver δ) (bench : Bench)
        (steps : List (Step δ)),
      let usage := ({ radio := start, bench } : Usage δ ε).run steps
      let radio := usage.radio
      (∀ called ∈ usage.journal, ∀ payload,
        .perform (.send payload) ∈ called.driverCalls → payload.length ≤ 255) ∧
      (∀ call frame, call = .send frame ∨ call = .sendFrame ∧ radio.frame = frame →
        (frame.length ≤ 255 →
          radio.driverCalls call usage.bench = [.perform (.send frame)]) ∧
        (255 < frame.length →
          radio.driverCalls call usage.bench = [] ∧
            (radio.call call usage.bench).result =
              .error (.payloadTooLarge frame.length 255))) ∧
      (∀ payload error, (radio.call (.send payload) usage.bench).result = .error (.driver error) →
        let after := usage.make (.send payload)
        after.radio.driverCalls .sendFrame after.bench = [.perform (.send payload)])) ∧
    (∀ (driver : SimulatedRadio) (board : SimulatedBoard) (settings : Settings) (bench : Bench)
        (opened : Usage SimulatedRadio ChipError),
      (Transceiver.start driver board settings bench).opened? = some opened → ∀ steps,
      (∀ called ∈ (opened.run steps).journal, ∀ error,
        called.result ≠ .error (.driver error)) ∧
      ((∀ step ∈ steps, step.Spares driver.chip) →
        ((opened.run steps).bench.chips driver.chip).sent =
          (bench.chips driver.chip).sent ++ (opened.run steps).sent)) := by
  constructor
  · intro δ β ε _ start bench steps usage radio
    refine ⟨invariant_short.run (List.forall_mem_nil _) steps, ?_, ?_⟩
    · intro call frame sends
      have outgoing : call.outgoing? radio.frame = some frame := by
        rcases sends with rfl | ⟨rfl, rfl⟩ <;> rfl
      refine ⟨fun fits => Transceiver.driverCalls_of_fits outgoing fits usage.bench,
        fun long => ⟨Transceiver.driverCalls_of_long outgoing long usage.bench, ?_⟩⟩
      exact congrArg CallRun.result (Transceiver.call_of_long outgoing long usage.bench)
    · intro payload error failed after
      obtain ⟨frame, fits⟩ := Transceiver.frame_of_driver_error failed
      have outgoing : Call.sendFrame.outgoing? after.radio.frame = some payload :=
        congrArg some frame
      exact Transceiver.driverCalls_of_fits outgoing fits after.bench
  · intro driver board settings bench opened h steps
    have unused : opened.journal = [] := by
      obtain ⟨_, rfl⟩ := of_opened h
      rfl
    refine ⟨invariant_accepted.run ?_ steps, fun spares => ?_⟩
    · rw [unused]
      exact List.forall_mem_nil _
    · have keeps : ∀ step ∈ steps, step.Keeps .frames driver.chip := by
        intro step member
        have spared := spares step member
        cases step <;> exact spared
      have told : ∀ called ∈ (opened.run steps).journal,
          called.sent? = called.command?.bind Command.payload? := by
        apply invariant_sent.run
        rw [unused]
        exact List.forall_mem_nil _
      rw [← stored_frames told]
      exact ((agrees_opened h).run keeps).held

theorem frames_reach_driver_both :
    let failing : Transceiver ScriptedDriver :=
      { driver := ScriptedDriver.setFailure {} "send" (some "busy"), dispatcher := {},
        settings := {} }
    let after := ({ radio := failing, bench := {} } : Usage ScriptedDriver String).make (.send [7])
    let driver : SimulatedRadio := { chip := 0 }
    let latch (bench : Bench) :=
      bench.setChip 0 ((bench.chips 0).latch (.rxDone ⟨[8, 9], -97, 4⟩))
    let steps : List (Step SimulatedRadio) :=
      [.call (.send [1, 2]), .call .listen, .arrange latch, .call (.handle (.line 0)),
        .call .sendFrame]
    after.radio.driverCalls .sendFrame after.bench = [.perform (.send [7])] ∧
      (Transceiver.start driver {} {} {}).opened? = some simulated ∧
      ((simulated.run steps).bench.chips driver.chip).sent = [[1, 2], [8, 9]] := by
  intro failing after driver latch steps
  obtain ⟨generally, overSimulated⟩ := frames_reach_driver
  refine ⟨?_, opened_simulated, ?_⟩
  · obtain ⟨_, _, again⟩ := generally (ε := String) failing {} []
    exact again [7] "busy" (by decide +kernel)
  · have spares : ∀ step ∈ steps, step.Spares driver.chip := by
      have latched (bench : Bench) : ((latch bench).chips 0).sent = (bench.chips 0).sent := by
        simp [latch, Chip.latch]
      simp [steps, driver, Step.Spares, latched]
    have agreed := (overSimulated driver {} {} {} simulated opened_simulated steps).2 spares
    have fresh : (({} : Bench).chips driver.chip).sent = [] := rfl
    have journal : (simulated.run steps).sent = [[1, 2], [8, 9]] := by decide +kernel
    rw [fresh, journal] at agreed
    exact agreed

end Usage

end RadioInterrupt
