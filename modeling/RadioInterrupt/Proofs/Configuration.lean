import RadioInterrupt.Proofs.Usage

/-!
# Settings that are written after they were checked

Settings are checked when a transceiver is set up, and calls write single settings later.  A setting
is what was written to it last, or else what it was set up with (`Usage.written`).  No call checks
what it writes: a hop period of zero, or a symbol timeout of zero for single receptions, goes on
into the configurations that the driver is handed.
-/

namespace RadioInterrupt

namespace Call

def hopping? : Call → Option Hopping
  | .setHopping hopping => some hopping
  | _ => none

def symbolTimeout? : Call → Option UInt16
  | .setSymbolTimeout symbols => some symbols
  | _ => none

def transmitIq? : Call → Option Bool
  | .invertTransmitIq invert => some invert
  | _ => none

def receiveIq? : Call → Option Bool
  | .invertReceiveIq invert => some invert
  | _ => none

end Call

namespace Hopping

theorem isOn_and_period_eq_zero_iff {hopping : Hopping} :
    hopping.isOn = true ∧ hopping.period = 0 ↔ hopping = .every 0 := by
  cases hopping with
  | off => simp [isOn]
  | every symbols => simp [isOn, period]

end Hopping

/-! ## Configurations -/

namespace Transceiver

variable {δ β ε : Type} [Driver δ β ε] {radio : Transceiver δ} {call : Call} {bench : Bench}

theorem hopping_of_configureTransmit {config : TransmitConfig}
    (h : .perform (.configureTransmit config) ∈ radio.driverCalls call bench) :
    config.hopping = true ∧ config.hopPeriod = 0 ↔
      config.modem = .lora ∧ radio.settings.hopping = .every 0 := by
  have planned := perform_mem_driverCalls_iff.mp h
  cases call with
  | send payload | sendFrame =>
      rw [command?] at planned
      split at planned <;> cases planned
  | configureLoraTransmit power bandwidth factor rate =>
      cases planned
      simp [Settings.loraTransmit, Hopping.isOn_and_period_eq_zero_iff]
  | configureFskTransmit power deviation datarate =>
      cases planned
      simp [Settings.fskTransmit]
  | _ => cases planned

theorem loraReceive_of_configureReceive {config : ReceiveConfig}
    (h : .perform (.configureReceive config) ∈ radio.driverCalls call bench) :
    ∃ bandwidth factor rate, config = radio.settings.loraReceive bandwidth factor rate := by
  have planned := perform_mem_driverCalls_iff.mp h
  cases call with
  | send payload | sendFrame =>
      rw [command?] at planned
      split at planned <;> cases planned
  | configureLoraReceive bandwidth factor rate =>
      cases planned
      exact ⟨bandwidth, factor, rate, rfl⟩
  | _ => cases planned

end Transceiver

/-! ## What was written last -/

namespace Usage

variable {δ β ε : Type}

/-- What the latest call that wrote something has written. -/
def last {α : Type} (usage : Usage δ ε) (written : Call → Option α) : Option α :=
  usage.journal.findSome? fun called => written called.call

def written (usage : Usage δ ε) (initial : Settings) : Settings :=
  { initial with
    hopping := (usage.last Call.hopping?).getD initial.hopping
    symbolTimeout := (usage.last Call.symbolTimeout?).getD initial.symbolTimeout
    invertTransmitIq := (usage.last Call.transmitIq?).getD initial.invertTransmitIq
    invertReceiveIq := (usage.last Call.receiveIq?).getD initial.invertReceiveIq }

section Rules

variable {usage : Usage δ ε} {initial : Settings}

theorem hopping_written_iff (valid : initial.Valid) :
    (usage.written initial).hopping = .every 0 ↔
      usage.last Call.hopping? = some (.every 0) := by
  cases h : usage.last Call.hopping? with
  | none => simp [written, h, valid.hopPeriod]
  | some hopping => simp [written, h]

theorem symbolTimeout_written_iff (valid : initial.Valid)
    (single : initial.continuousReceive = false) :
    (usage.written initial).symbolTimeout = 0 ↔ usage.last Call.symbolTimeout? = some 0 := by
  have nonzero : initial.symbolTimeout ≠ 0 := by
    have rule := valid.symbolTimeout
    simpa [single] using rule
  cases h : usage.last Call.symbolTimeout? with
  | none => simp [written, h, nonzero]
  | some symbols => simp [written, h]

theorem valid_written_iff (valid : initial.Valid) :
    (usage.written initial).Valid ↔
      usage.last Call.hopping? ≠ some (.every 0) ∧
        (initial.continuousReceive = true ∨ usage.last Call.symbolTimeout? ≠ some 0) := by
  constructor
  · intro after
    refine ⟨fun zero => after.hopPeriod ((hopping_written_iff valid).mpr zero), ?_⟩
    cases single : initial.continuousReceive with
    | true => exact .inl rfl
    | false =>
        refine .inr fun zero => ?_
        rcases after.symbolTimeout with nonzero | continuous
        · exact nonzero ((symbolTimeout_written_iff valid single).mpr zero)
        · exact absurd (single.symm.trans continuous) (by simp)
  · rintro ⟨hopping, timeout⟩
    refine ⟨valid.preamble, ?_, valid.transmitTimeout,
      fun zero => hopping ((hopping_written_iff valid).mp zero)⟩
    cases single : initial.continuousReceive with
    | true => exact .inr single
    | false =>
        refine .inl fun zero => ?_
        have written := (symbolTimeout_written_iff valid single).mp zero
        simp [single, written] at timeout

end Rules

variable [Driver δ β ε]

theorem last_make {α : Type} (usage : Usage δ ε) (call : Call) (written : Call → Option α) :
    (usage.make call).last written = (written call).or (usage.last written) := by
  rw [last, last, make, List.findSome?_cons, Transceiver.called]
  cases written call <;> rfl

theorem written_make (usage : Usage δ ε) (call : Call) (initial : Settings) :
    (usage.make call).written initial = call.settingsAfter (usage.written initial) := by
  simp only [written, last_make]
  cases call <;> rfl

theorem invariant_written (initial : Settings) : Invariant fun usage : Usage δ ε =>
    usage.radio.settings = usage.written initial where
  make usage call h := by
    rw [written_make, ← h]
    exact usage.radio.settings_call call usage.bench
  arrange _ _ h := h
  adjust _ _ h := h

theorem settings_run {driver : δ} {board : β} {settings : Settings} {bench : Bench}
    {opened : Usage δ ε}
    (h : (Transceiver.start driver board settings bench).opened? = some opened)
    (steps : List (Step δ)) :
    (opened.run steps).radio.settings = (opened.run steps).written settings := by
  apply (invariant_written settings).run
  obtain ⟨_, rfl⟩ := of_opened h
  rfl

/-- The settings of a usage are valid unless a zero was written last, either for the hop period or,
with single receptions, for the symbol timeout.  Such a zero is what the driver is handed. -/
theorem settings_valid_iff {driver : δ} {board : β} {settings : Settings} {bench : Bench}
    {opened : Usage δ ε}
    (h : (Transceiver.start driver board settings bench).opened? = some opened)
    (steps : List (Step δ)) :
    let usage := opened.run steps
    let hopping := usage.last Call.hopping?
    let timeout := usage.last Call.symbolTimeout?
    (usage.radio.settings.validate = .ok () ↔
      hopping ≠ some (.every 0) ∧ (settings.continuousReceive = true ∨ timeout ≠ some 0)) ∧
    (∀ call config, .perform (.configureTransmit config) ∈
        usage.radio.driverCalls call usage.bench →
      (config.hopping = true ∧ config.hopPeriod = 0 ↔
        config.modem = .lora ∧ hopping = some (.every 0))) ∧
    (∀ call config, .perform (.configureReceive config) ∈
        usage.radio.driverCalls call usage.bench →
      (config.hopping = true ∧ config.hopPeriod = 0 ↔ hopping = some (.every 0)) ∧
      (config.continuous = false ∧ config.symbolTimeout = 0 ↔
        settings.continuousReceive = false ∧ timeout = some 0)) := by
  intro usage hopping timeout
  obtain ⟨checked, _⟩ := of_opened h
  have valid : settings.Valid := Settings.validate_eq_ok_iff.mp checked
  have written : usage.radio.settings = usage.written settings := settings_run h steps
  refine ⟨?_, ?_, ?_⟩
  · rw [written, Settings.validate_eq_ok_iff]
    exact valid_written_iff valid
  · intro call config handed
    rw [Transceiver.hopping_of_configureTransmit handed, written, hopping_written_iff valid]
  · intro call config handed
    obtain ⟨bandwidth, factor, rate, rfl⟩ := Transceiver.loraReceive_of_configureReceive handed
    rw [written]
    refine ⟨Hopping.isOn_and_period_eq_zero_iff.trans (hopping_written_iff valid), ?_⟩
    exact and_congr_right fun single => symbolTimeout_written_iff valid single

theorem settings_valid_iff_rewritten :
    let steps : List (Step SimulatedRadio) :=
      [.call (.setHopping (.every 0)), .call (.setSymbolTimeout 0),
        .call (.setHopping (.every 3))]
    (Transceiver.start ({ chip := 0 } : SimulatedRadio) {} {} {}).opened? = some simulated ∧
      (simulated.run steps).radio.settings.validate = .ok () ∧
      (simulated.run steps).radio.settings.hopping = .every 3 := by
  intro steps
  have rules := (settings_valid_iff opened_simulated steps).1
  exact ⟨opened_simulated, rules.mpr ⟨by decide, .inl rfl⟩, rfl⟩

/-- A hop period of zero, or a symbol timeout of zero for a single reception, is written without a
check and handed to the driver. -/
theorem settings_invalid_after_zero :
    let driver : SimulatedRadio := { chip := 0 }
    (∃ opened : Usage SimulatedRadio ChipError,
      (Transceiver.start driver {} {} {}).opened? = some opened ∧
        let usage := opened.make (.setHopping (.every 0))
        usage.radio.settings.validate = .error .noHopPeriod ∧
          ∃ config, .perform (.configureTransmit config) ∈
              usage.radio.driverCalls (.configureLoraTransmit 14 .khz125 .sf7 .fourFifths)
                usage.bench ∧
            config.modem = .lora ∧ config.hopping = true ∧ config.hopPeriod = 0) ∧
    (∃ opened : Usage SimulatedRadio ChipError,
      (Transceiver.start driver {} { continuousReceive := false } {}).opened? = some opened ∧
        let usage := opened.make (.setSymbolTimeout 0)
        usage.radio.settings.validate = .error .noSymbolTimeout ∧
          ∃ config, .perform (.configureReceive config) ∈
              usage.radio.driverCalls (.configureLoraReceive .khz125 .sf7 .fourFifths)
                usage.bench ∧
            config.continuous = false ∧ config.symbolTimeout = 0) := by
  intro driver
  constructor
  · exact ⟨_, rfl, rfl, _, Transceiver.perform_mem_driverCalls_iff.mpr rfl, rfl, rfl, rfl⟩
  · exact ⟨_, rfl, rfl, _, Transceiver.perform_mem_driverCalls_iff.mpr rfl, rfl, rfl⟩

end Usage

end RadioInterrupt
