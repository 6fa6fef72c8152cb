import RadioInterrupt.Proofs.Usage

/-!
# The frame buffer holds one frame

A transceiver reads a received frame back from its dispatcher: the length comes from the frame
description, which is cut at 65535, and the bytes come from a buffer that may hold the rest of an
older frame.  The bytes are those of the one frame that the dispatch accepted, because a registered
buffer always has room for the largest frame (`Dispatcher.Fitted`).
-/

namespace RadioInterrupt

/-! ## Answers -/

def Report.response : Report → Response
  | .txDone => .txDone
  | .rxDone frame => .rxDone frame.rssi frame.snr
  | .txTimeout => .txTimeout
  | .rxTimeout => .rxTimeout
  | .rxError => .rxError

namespace Dispatcher

variable {dispatcher : Dispatcher} {event : Event} {bench : Bench}

theorem reports_of_error {fault : Unconfigured}
    (h : (dispatcher.dispatch event bench).result = .error fault) :
    dispatcher.reports event bench = [] := by
  cases held : dispatcher.handler? event.slot with
  | none => exact reports_of_none held bench
  | some handler =>
      rw [result_of_some held] at h
      cases h

theorem outcome_of_result {outcome : Outcome}
    (h : (dispatcher.dispatch event bench).result = .ok outcome) :
    outcome = (dispatcher.reports event bench).head?.elim .busy Report.outcome := by
  cases held : dispatcher.handler? event.slot with
  | none =>
      rw [result_of_none held, Event.unhandled] at h
      rw [reports_of_none held]
      cases hslot : event.slot with
      | line index =>
          rw [hslot] at h
          cases h
      | timer timer =>
          rw [hslot] at h
          cases h
          rfl
  | some handler =>
      rw [result_of_some held] at h
      exact (Except.ok.inj h).symm

theorem head?_of_accepted {frame : Frame} (h : dispatcher.accepted event bench = some frame) :
    (dispatcher.reports event bench).head? = some (.rxDone frame) := by
  obtain ⟨report, first, found⟩ := Option.bind_eq_some_iff.mp h
  cases report with
  | rxDone received =>
      cases found
      exact first
  | txDone | txTimeout | rxTimeout | rxError => cases found

theorem ofOutcome_dispatch {outcome : Outcome}
    (h : (dispatcher.dispatch event bench).result = .ok outcome) :
    Response.ofOutcome outcome (dispatcher.dispatch event bench).dispatcher.info =
      (dispatcher.reports event bench).head?.elim .busy Report.response := by
  rw [outcome_of_result h, info_dispatch, accepted]
  cases (dispatcher.reports event bench).head? with
  | none => rfl
  | some report => cases report <;> rfl

end Dispatcher

namespace Transceiver

variable {δ ε : Type} {radio : Transceiver δ} {event : Event} {bench : Bench}

theorem result_handle (radio : Transceiver δ) (event : Event) (bench : Bench) :
    (radio.handle (ε := ε) event bench).result =
      ((radio.dispatcher.dispatch event bench).result.mapError .dispatch).map fun _ =>
        (radio.dispatcher.reports event bench).head?.elim .busy Report.response := by
  simp only [handle_eq]
  cases h : (radio.dispatcher.dispatch event bench).result with
  | error fault => rfl
  | ok outcome => exact congrArg Except.ok (Dispatcher.ofOutcome_dispatch h)

theorem result_handle_of_report {report : Report}
    (h : (radio.dispatcher.reports event bench).head? = some report) :
    (radio.handle (ε := ε) event bench).result = .ok report.response := by
  rw [result_handle, h]
  cases hresult : (radio.dispatcher.dispatch event bench).result with
  | error fault =>
      rw [Dispatcher.reports_of_error hresult] at h
      cases h
  | ok outcome => rfl

theorem report_of_result_handle {response : Response}
    (h : (radio.handle (ε := ε) event bench).result = .ok response) (heard : response ≠ .busy) :
    ∃ report, (radio.dispatcher.reports event bench).head? = some report ∧
      report.response = response := by
  rw [result_handle] at h
  cases hresult : (radio.dispatcher.dispatch event bench).result with
  | error fault =>
      rw [hresult] at h
      cases h
  | ok outcome =>
      rw [hresult] at h
      cases first : (radio.dispatcher.reports event bench).head? with
      | none =>
          rw [first] at h
          cases h
          exact absurd rfl heard
      | some report =>
          rw [first] at h
          cases h
          exact ⟨report, rfl, rfl⟩

theorem result_handle_rxDone_iff {rssi : Int16} {snr : Int8} :
    (radio.handle (ε := ε) event bench).result = .ok (.rxDone rssi snr) ↔
      ∃ frame, radio.dispatcher.accepted event bench = some frame ∧ frame.rssi = rssi ∧
        frame.snr = snr := by
  constructor
  · intro h
    obtain ⟨report, first, same⟩ := report_of_result_handle h nofun
    rw [Dispatcher.accepted, first]
    cases report with
    | rxDone frame =>
        cases same
        exact ⟨frame, rfl, rfl, rfl⟩
    | txDone | txTimeout | rxTimeout | rxError => cases same
  · rintro ⟨frame, accepted, rfl, rfl⟩
    exact result_handle_of_report (Dispatcher.head?_of_accepted accepted)

theorem frame_handle (radio : Transceiver δ) (event : Event) (bench : Bench) :
    (radio.handle (ε := ε) event bench).radio.frame =
      (radio.dispatcher.reports event bench).head?.elim radio.frame fun report =>
        frameAfter radio.frame (radio.dispatcher.dispatch event bench).dispatcher
          report.outcome := by
  simp only [handle_eq]
  cases h : (radio.dispatcher.dispatch event bench).result with
  | error fault =>
      rw [Dispatcher.reports_of_error h]
      rfl
  | ok outcome =>
      rw [Dispatcher.outcome_of_result h]
      cases (radio.dispatcher.reports event bench).head? <;> rfl

theorem frame_handle_of_txDone (h : (radio.handle (ε := ε) event bench).result = .ok .txDone) :
    (radio.handle (ε := ε) event bench).radio.frame = [] := by
  obtain ⟨report, first, same⟩ := report_of_result_handle h nofun
  rw [frame_handle, first]
  cases report with
  | txDone => rfl
  | rxDone frame | txTimeout | rxTimeout | rxError => cases same

theorem frame_handle_of_other
    (unsent : (radio.handle (ε := ε) event bench).result ≠ .ok .txDone)
    (unreceived : ∀ rssi snr,
      (radio.handle (ε := ε) event bench).result ≠ .ok (.rxDone rssi snr)) :
    (radio.handle (ε := ε) event bench).radio.frame = radio.frame := by
  rw [frame_handle]
  cases first : (radio.dispatcher.reports event bench).head? with
  | none => rfl
  | some report =>
      have answer := result_handle_of_report (ε := ε) first
      cases report with
      | txDone => exact absurd answer unsent
      | rxDone frame => exact absurd answer (unreceived frame.rssi frame.snr)
      | txTimeout | rxTimeout | rxError => rfl

end Transceiver

/-! ## Fitted buffers -/

theorem take_overlay (payload : Bytes) {bytes : Bytes} {bound : Nat} (h : bytes.length ≤ bound) :
    (overlay payload bytes).take (min payload.length bound) = payload.take bytes.length := by
  by_cases fits : payload.length ≤ bytes.length
  · rw [overlay, List.take_of_length_le fits]
    exact List.take_left' (by omega)
  · rw [overlay, List.drop_eq_nil_of_le (by omega), List.append_nil]
    apply List.take_of_length_le
    simp only [List.length_take]
    omega

namespace Dispatcher

def Fitted (dispatcher : Dispatcher) : Prop :=
  ∀ bytes, dispatcher.inbox.registered = some bytes → bytes.length = maxPayload

theorem Fitted.dispatch {dispatcher : Dispatcher} (h : dispatcher.Fitted) (event : Event)
    (bench : Bench) : (dispatcher.dispatch event bench).dispatcher.Fitted := by
  intro bytes found
  rw [inbox_dispatch] at found
  cases hframe : dispatcher.accepted event bench with
  | none =>
      rw [hframe] at found
      exact h bytes found
  | some frame =>
      rw [hframe, Option.elim_some, Inbox.registered_fill] at found
      obtain ⟨older, held, rfl⟩ := Option.map_eq_some_iff.mp found
      rw [length_overlay]
      exact h older held

theorem Fitted.prepareBuffer {dispatcher : Dispatcher} (h : dispatcher.Fitted) :
    (Transceiver.prepareBuffer dispatcher).Fitted := by
  rw [Transceiver.prepareBuffer]
  split
  · exact h
  · intro bytes found
    cases found
    exact List.length_replicate

theorem received_of_accepted {dispatcher : Dispatcher} {event : Event} {bench : Bench}
    {frame : Frame} (h : dispatcher.Fitted)
    (hframe : dispatcher.accepted event bench = some frame) :
    Transceiver.received (dispatcher.dispatch event bench).dispatcher =
      if dispatcher.inbox.registered.isSome then frame.payload.take maxPayload else [] := by
  rw [Transceiver.received, inbox_dispatch, info_dispatch, hframe, Option.elim_some,
    Option.elim_some, Inbox.registered_fill, FrameInfo.ofFrame, FrameInfo.ofLength,
    FrameInfo.toNat_clampLength]
  cases held : dispatcher.inbox.registered with
  | none => exact List.take_nil
  | some bytes =>
      have room := h bytes held
      have short : bytes.length ≤ 65535 := by
        rw [room, maxPayload]
        omega
      rw [← room]
      exact take_overlay frame.payload short

end Dispatcher

namespace Usage

variable {δ β ε : Type} [Driver δ β ε]

theorem invariant_fitted :
    Invariant fun usage : Usage δ ε => usage.radio.dispatcher.Fitted where
  make usage call h := by
    change (usage.radio.call call usage.bench).radio.dispatcher.Fitted
    rw [Transceiver.dispatcher_call]
    cases call with
    | handle event => exact h.dispatch event usage.bench
    | listen => exact h.prepareBuffer
    | release => exact nofun
    | _ => exact h
  arrange usage change h := h
  adjust usage change h := h

theorem fitted_opened {driver : δ} {board : β} {settings : Settings} {bench : Bench}
    {opened : Usage δ ε}
    (h : (Transceiver.start driver board settings bench).opened? = some opened) :
    opened.radio.dispatcher.Fitted := by
  obtain ⟨_, rfl⟩ := of_opened h
  intro bytes found
  have none : (Dispatcher.install {} driver board bench).dispatcher.inbox.registered = none := by
    rw [Dispatcher.dispatcher_install]
    rfl
  cases none.symm.trans found

/-- A received frame takes the whole frame buffer for itself, cut at the largest payload, or leaves
it empty when no buffer was registered.  A sent frame leaves it empty.  Nothing else that a dispatch
can come to changes it. -/
theorem frame_buffer_holds_one_frame {driver : δ} {board : β} {settings : Settings}
    {bench : Bench} {opened : Usage δ ε}
    (h : (Transceiver.start driver board settings bench).opened? = some opened)
    (steps : List (Step δ)) (event : Event) :
    let usage := opened.run steps
    let before := usage.radio
    let run := before.handle (ε := ε) event usage.bench
    let after := run.radio
    (∀ rssi snr, run.result = .ok (.rxDone rssi snr) ↔
      ∃ frame, before.dispatcher.accepted event usage.bench = some frame ∧ frame.rssi = rssi ∧
        frame.snr = snr) ∧
    (∀ frame, before.dispatcher.accepted event usage.bench = some frame →
      after.frame =
        (if before.dispatcher.inbox.registered.isSome then frame.payload.take 255 else []) ∧
      after.dispatcher.info.length.toNat = min frame.payload.length 65535 ∧
      after.dispatcher.info.rssi = frame.rssi ∧ after.dispatcher.info.snr = frame.snr) ∧
    (run.result = .ok .txDone → after.frame = []) ∧
    ((∀ rssi snr, run.result ≠ .ok (.rxDone rssi snr)) → run.result ≠ .ok .txDone →
      after.frame = before.frame) := by
  intro usage before run after
  have fitted : before.dispatcher.Fitted := invariant_fitted.run (fitted_opened h) steps
  refine ⟨fun rssi snr => Transceiver.result_handle_rxDone_iff, ?_,
    Transceiver.frame_handle_of_txDone,
    fun unreceived unsent => Transceiver.frame_handle_of_other unsent unreceived⟩
  intro frame accepted
  have described : after.dispatcher.info = .ofFrame frame := by
    rw [Transceiver.dispatcher_handle, Dispatcher.info_dispatch, accepted]
    rfl
  have left : after.frame = _ := before.frame_handle event usage.bench
  rw [left, Dispatcher.head?_of_accepted accepted, described]
  exact ⟨Dispatcher.received_of_accepted fitted accepted, FrameInfo.toNat_clampLength _, rfl, rfl⟩

/-- A frame of two bytes comes after one of five, whose rest is still in the receive buffer. -/
theorem frame_buffer_holds_one_frame_short :
    let latch (frame : Frame) (bench : Bench) :=
      bench.setChip 0 ((bench.chips 0).latch (.rxDone frame))
    let steps : List (Step SimulatedRadio) :=
      [.call .listen, .arrange (latch ⟨[1, 2, 3, 4, 5], -80, 7⟩), .call (.handle (.line 0)),
        .arrange (latch ⟨[8, 9], -97, 4⟩)]
    (Transceiver.start ({ chip := 0 } : SimulatedRadio) {} {} {}).opened? = some simulated ∧
      let usage := simulated.run steps
      let after := (usage.radio.handle (ε := ChipError) (.line 1) usage.bench).radio
      after.frame = [8, 9] ∧ after.dispatcher.info = ⟨2, -97, 4⟩ ∧
        after.dispatcher.inbox.registered.map (List.take 5) = some [8, 9, 3, 4, 5] := by
  intro latch steps
  obtain ⟨_, received, _⟩ := frame_buffer_holds_one_frame opened_simulated steps (.line 1)
  have accepted : (simulated.run steps).radio.dispatcher.accepted (.line 1)
      (simulated.run steps).bench = some ⟨[8, 9], -97, 4⟩ := by decide +kernel
  have registered : (simulated.run steps).radio.dispatcher.inbox.registered.isSome = true := by
    decide +kernel
  have frame := (received _ accepted).1
  rw [if_pos registered] at frame
  exact ⟨opened_simulated, frame, by decide +kernel, by decide +kernel⟩

end Usage

end RadioInterrupt
