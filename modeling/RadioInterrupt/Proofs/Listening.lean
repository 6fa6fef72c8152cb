import RadioInterrupt.Proofs.Applied
import RadioInterrupt.Proofs.Failing
import RadioInterrupt.Proofs.FrameBuffer

/-!
# Listening without an end

A transceiver listens with a timeout of zero, which asks for continuous reception.  A simulated chip
stores the timeout and does not look at it: whether it goes on after a frame is up to its
configuration to receive.  So it goes on where a transceiver with continuous settings has configured
it, and where it has not, the first frame ends the reception.
-/

namespace RadioInterrupt

structure Reception where
  frame : Frame
  event : Event
  line : event = .line 0 ∨ event = .line 1

def Reception.arrive (reception : Reception) (number : Nat) (bench : Bench) : Bench :=
  bench.setChip number ((bench.chips number).latch (.rxDone reception.frame))

theorem Reception.chip_arrive (reception : Reception) (number : Nat) (bench : Bench) :
    (reception.arrive number bench).chips number =
      (bench.chips number).latch (.rxDone reception.frame) :=
  bench.chips_setChip_self _ _

theorem Transceiver.chip_call_listen (radio : Transceiver SimulatedRadio) (bench : Bench) :
    (radio.call .listen bench).bench.chips radio.driver.chip =
      (bench.chips radio.driver.chip).receive 0 :=
  bench.chips_setChip_self _ _

namespace Usage

def receive (number : Nat) (usage : Usage SimulatedRadio ChipError) (reception : Reception) :
    Usage SimulatedRadio ChipError :=
  usage.run [.arrange (reception.arrive number), .call (.handle reception.event)]

/-! ## The line handler -/

theorem handler?_dispatcherAfter {dispatcher : Dispatcher} {number : Nat}
    (h : dispatcher.handler? (.line 0) = some (.chipLine number)) (call : Call) (bench : Bench) :
    (call.dispatcherAfter dispatcher bench).handler? (.line 0) = some (.chipLine number) := by
  cases call with
  | handle event => exact Dispatcher.handler?_dispatch_chipLine h event bench
  | listen =>
      change (Transceiver.prepareBuffer dispatcher).handler? _ = _
      rw [Transceiver.prepareBuffer_eq]
      exact h
  | _ => exact h

theorem invariant_handler (number : Nat) : Invariant fun usage : Usage SimulatedRadio ChipError =>
    usage.radio.dispatcher.handler? (.line 0) = some (.chipLine number) where
  make usage call h := by
    change (usage.radio.call call usage.bench).radio.dispatcher.handler? _ = _
    rw [Transceiver.dispatcher_call]
    exact handler?_dispatcherAfter h call usage.bench
  arrange _ _ h := h
  adjust _ _ h := h

theorem handler?_run {driver : SimulatedRadio} {board : SimulatedBoard} {settings : Settings}
    {bench : Bench} {opened : Usage SimulatedRadio ChipError}
    (h : (Transceiver.start driver board settings bench).opened? = some opened)
    (steps : List (Step SimulatedRadio)) :
    (opened.run steps).radio.dispatcher.handler? (.line 0) = some (.chipLine driver.chip) := by
  -- The installation succeeded, or there would be no transceiver; no call touches slot 0 later.
  apply (invariant_handler driver.chip).run
  obtain ⟨done, succeeded⟩ := installed_of_opened h
  obtain ⟨_, rfl⟩ := of_opened h
  exact driver.handler?_install {} board bench succeeded

/-! ## Continuous configurations -/

theorem invariant_continuous {δ β ε : Type} [Driver δ β ε] : Invariant fun usage : Usage δ ε =>
    usage.radio.settings.continuousReceive = true ∧
      ∀ called ∈ usage.journal, ∀ config,
        called.command?.bind Command.receiveConfig? = some config →
          config.continuous = true where
  make usage call h := by
    obtain ⟨continuous, earlier⟩ := h
    refine ⟨?_, List.forall_mem_cons.mpr ⟨?_, earlier⟩⟩
    · change (usage.radio.call call usage.bench).radio.settings.continuousReceive = true
      rw [Transceiver.settings_call]
      cases call <;> exact continuous
    · intro config handed
      -- Only a call that configures gives such a command, made of the settings of that moment.
      rw [Transceiver.command?_called] at handed
      obtain ⟨command, made, receives⟩ := Option.bind_eq_some_iff.mp handed
      obtain ⟨_, _, planned⟩ := Option.bind_eq_some_iff.mp made
      cases command with
      | configureReceive given =>
          cases receives
          have called : .perform (.configureReceive config) ∈
              usage.radio.driverCalls call usage.bench :=
            Transceiver.perform_mem_driverCalls_iff.mpr planned
          obtain ⟨_, _, _, rfl⟩ := Transceiver.loraReceive_of_configureReceive called
          exact continuous
      | _ => simp [Command.receiveConfig?] at receives
  arrange _ _ h := h
  adjust _ _ h := h

theorem continuous_run {driver : SimulatedRadio} {board : SimulatedBoard} {settings : Settings}
    {bench : Bench} {opened : Usage SimulatedRadio ChipError}
    (h : (Transceiver.start driver board settings bench).opened? = some opened)
    (continuous : settings.continuousReceive = true) {steps : List (Step SimulatedRadio)}
    (keeps : ∀ step ∈ steps, step.Keeps .reception driver.chip) :
    let usage := opened.run steps
    (usage.bench.chips driver.chip).continuous =
      ((usage.applied Command.receiveConfig?).isSome ||
        (bench.chips driver.chip).continuous) := by
  intro usage
  have kept : usage.radio.settings.continuousReceive = true ∧
      ∀ called ∈ usage.journal, ∀ config,
        called.command?.bind Command.receiveConfig? = some config →
          config.continuous = true := by
    apply invariant_continuous.run
    obtain ⟨_, rfl⟩ := of_opened h
    exact ⟨continuous, List.forall_mem_nil _⟩
  rw [Chip.continuous, receiveConfig_run h keeps]
  cases found : usage.applied Command.receiveConfig? with
  | none => simp [Chip.continuous]
  | some config =>
      obtain ⟨called, member, handed⟩ := List.exists_of_findSome?_eq_some found
      simp [kept.2 called member config handed]

/-! ## One frame after the other -/

/-- The chip receives, or has stopped where it does not go on after a frame, and nothing waits to be
serviced. -/
structure Listening (number : Nat) (goesOn : Bool)
    (usage : Usage SimulatedRadio ChipError) : Prop where
  handler : usage.radio.dispatcher.handler? (.line 0) = some (.chipLine number)
  pending : (usage.bench.chips number).pending = []
  continuous : (usage.bench.chips number).continuous = goesOn
  mode : goesOn = true → (usage.bench.chips number).mode = .receive

section Receptions

variable {number : Nat} {goesOn : Bool} {usage : Usage SimulatedRadio ChipError}

theorem Listening.reached (h : Listening number goesOn usage) (reception : Reception) :
    usage.radio.dispatcher.handler? reception.event.slot = some (.chipLine number) := by
  rw [Event.slot_eq_line_zero_iff.mpr reception.line, h.handler]

theorem Listening.oldest (h : Listening number goesOn usage) (reception : Reception) :
    ((reception.arrive number usage.bench).chips number).pending = [.rxDone reception.frame] := by
  simp [Reception.chip_arrive, Chip.latch, h.pending]

theorem Listening.chip_receive (h : Listening number goesOn usage) (reception : Reception) :
    (usage.receive number reception).bench.chips number =
      { usage.bench.chips number with
        pending := [], mode := if goesOn then .receive else .standby } := by
  let latched := reception.arrive number usage.bench
  have left : (usage.receive number reception).bench =
      (usage.radio.dispatcher.dispatch reception.event latched).bench := by
    change (usage.radio.call (.handle reception.event) latched).bench = _
    rw [Transceiver.call_handle, Transceiver.handle_eq]
    rfl
  have mode : (latched.chips number).modeAfter (.rxDone reception.frame) =
      if goesOn then .receive else .standby := by
    have continuous : (latched.chips number).continuous = goesOn := by
      rw [← h.continuous, reception.chip_arrive]
      rfl
    rw [Chip.modeAfter, continuous]
    cases goesOn with
    | false => simp
    | true => simp [Cause.isFrame, latched, Reception.chip_arrive, Chip.latch, h.mode]
  rw [left, Dispatcher.chips_dispatch_of_handler (h.reached reception),
    Handler.start_chipLine (h.oldest reception), Bench.chips_setChip_self, mode,
    reception.chip_arrive]
  rfl

theorem Listening.result_receive (h : Listening number goesOn usage) (reception : Reception) :
    (usage.receive number reception).journal.head?.map Called.result =
      some (.ok (.response (.rxDone reception.frame.rssi reception.frame.snr))) := by
  let latched := reception.arrive number usage.bench
  have reports : (usage.radio.dispatcher.reports reception.event latched).head? =
      some (.rxDone reception.frame) := by
    rw [Dispatcher.reports_of_some (h.reached reception), Handler.reports,
      Handler.start_chipLine (h.oldest reception)]
    rfl
  have answer := Transceiver.result_handle_of_report (ε := ChipError) reports
  change some (usage.radio.call (.handle reception.event) latched).result = _
  rw [Transceiver.call_handle, CallRun.map, answer]
  rfl

theorem Listening.receive (h : Listening number goesOn usage) (reception : Reception) :
    Listening number goesOn (usage.receive number reception) := by
  constructor
  · exact (invariant_handler number).make _ (.handle reception.event) h.handler
  · rw [h.chip_receive]
  · rw [h.chip_receive, ← h.continuous]
    rfl
  · intro on
    rw [h.chip_receive, if_pos on]

theorem Listening.receiveAll (h : Listening number goesOn usage) (receptions : List Reception) :
    Listening number goesOn (receptions.foldl (Usage.receive number) usage) := by
  induction receptions generalizing usage with
  | nil => exact h
  | cons reception later ih => exact ih (h.receive reception)

theorem listening_of_listen (chip : usage.radio.driver.chip = number)
    (handler : usage.radio.dispatcher.handler? (.line 0) = some (.chipLine number))
    (idle : (usage.bench.chips number).pending = [])
    (continuous : (usage.bench.chips number).continuous = goesOn) :
    Listening number goesOn (usage.make .listen) := by
  subst chip
  have receives := Transceiver.chip_call_listen usage.radio usage.bench
  refine ⟨(invariant_handler _).make usage .listen handler, ?_, ?_, fun _ => ?_⟩
  · change ((usage.radio.call .listen usage.bench).bench.chips _).pending = []
    rw [receives]
    exact idle
  · change ((usage.radio.call .listen usage.bench).bench.chips _).continuous = goesOn
    rw [receives]
    exact continuous
  · change ((usage.radio.call .listen usage.bench).bench.chips _).mode = .receive
    rw [receives]
    rfl

end Receptions

/-- Continuous settings keep a chip receiving after each frame, if the chip was configured to
receive, by this transceiver or for continuous reception before it was set up.  Every frame is
answered; a chip that was not configured stands by after the first one, for all that it was asked to
receive with a timeout of zero. -/
theorem listening_goes_on_iff_configured {driver : SimulatedRadio} {board : SimulatedBoard}
    {settings : Settings} {bench : Bench} {opened : Usage SimulatedRadio ChipError}
    (h : (Transceiver.start driver board settings bench).opened? = some opened)
    (continuous : settings.continuousReceive = true) {steps : List (Step SimulatedRadio)}
    (keeps : ∀ step ∈ steps, step.Keeps .reception driver.chip)
    (idle : ((opened.run steps).bench.chips driver.chip).pending = []) :
    let usage := opened.run steps
    let listening := usage.make .listen
    let chip (usage : Usage SimulatedRadio ChipError) := usage.bench.chips driver.chip
    let configured :=
      (usage.applied Command.receiveConfig?).isSome || (bench.chips driver.chip).continuous
    (usage.radio.call .listen usage.bench).result = .ok .done ∧
    (chip listening).mode = .receive ∧ (chip listening).receiveTimeout = some 0 ∧
    ∀ (earlier : List Reception) (reception : Reception),
      let after := (earlier.foldl (receive driver.chip) listening).receive driver.chip reception
      let frame := reception.frame
      after.journal.head?.map Called.result =
        some (.ok (.response (.rxDone frame.rssi frame.snr))) ∧
      (chip after).pending = [] ∧
      (chip after).mode = if configured then .receive else .standby := by
  intro usage listening chip configured
  have owned : usage.radio.driver.chip = driver.chip := ((agrees_opened h).run keeps).chip
  have receives : chip listening = (chip usage).receive 0 := by
    have left := Transceiver.chip_call_listen usage.radio usage.bench
    rw [owned] at left
    exact left
  have ready : Listening driver.chip configured listening :=
    listening_of_listen owned (handler?_run h steps) idle (continuous_run h continuous keeps)
  refine ⟨rfl, by rw [receives]; rfl, by rw [receives]; rfl, ?_⟩
  intro earlier reception after frame
  have still := ready.receiveAll earlier
  have last : chip after = _ := still.chip_receive reception
  exact ⟨still.result_receive reception, by rw [last], by rw [last]⟩

theorem listening_goes_on_iff_configured_three :
    let steps : List (Step SimulatedRadio) :=
      [.call (.configureLoraReceive .khz125 .sf7 .fourFifths)]
    let first : Reception := ⟨⟨[1, 2], -80, 7⟩, .line 0, .inl rfl⟩
    let second : Reception := ⟨⟨[], -97, 4⟩, .line 1, .inr rfl⟩
    let listening := (simulated.run steps).make .listen
    let after := ([first, second].foldl (receive 0) listening).receive 0 first
    (Transceiver.start ({ chip := 0 } : SimulatedRadio) {} {} {}).opened? = some simulated ∧
      after.journal.head?.map Called.result = some (.ok (.response (.rxDone (-80) 7))) ∧
      (after.bench.chips 0).mode = .receive := by
  intro steps first second listening after
  have keeps : ∀ step ∈ steps, step.Keeps .reception 0 := by simp [steps, Step.Keeps]
  have idle : ((simulated.run steps).bench.chips 0).pending = [] := rfl
  obtain ⟨_, _, _, received⟩ := listening_goes_on_iff_configured opened_simulated rfl keeps idle
  obtain ⟨answer, _, mode⟩ := received [first, second] first
  refine ⟨opened_simulated, answer, ?_⟩
  rw [mode]
  rfl

/-- A transceiver with continuous settings listens on a chip that nobody has configured to receive:
the first frame is answered and ends the reception. -/
theorem listening_stops_unconfigured :
    let reception : Reception := ⟨⟨[1, 2], -80, 7⟩, .line 0, .inl rfl⟩
    let listening := simulated.make .listen
    let after := listening.receive 0 reception
    (Transceiver.start ({ chip := 0 } : SimulatedRadio) {} {} {}).opened? = some simulated ∧
      simulated.radio.settings.continuousReceive = true ∧
      (simulated.bench.chips 0).pending = [] ∧
      (simulated.radio.call .listen simulated.bench).result = .ok .done ∧
      (listening.bench.chips 0).mode = .receive ∧
      after.journal.head?.map Called.result = some (.ok (.response (.rxDone (-80) 7))) ∧
      (after.bench.chips 0).receiveTimeout = some 0 ∧ (after.bench.chips 0).mode = .standby := by
  intro reception listening after
  have ready : Listening 0 false listening := listening_of_listen rfl rfl rfl rfl
  have last := ready.chip_receive reception
  refine ⟨opened_simulated, rfl, rfl, rfl, rfl, ready.result_receive reception, ?_, ?_⟩
  · rw [last]
    rfl
  · rw [last]
    rfl

end Usage

end RadioInterrupt
