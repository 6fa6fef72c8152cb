import RadioInterrupt.Proofs.Configuration
import RadioInterrupt.Proofs.Registers

/-!
# Configurations as of a call

Four calls write one setting each, and three calls give the driver a configuration.  A configuration
is that of the settings at the time of its call: what was set up, but for what was written last
before.  It reaches a simulated chip and stays there, whatever is written to the settings later,
until the next configuration in the same direction takes its place.
-/

namespace RadioInterrupt

inductive Setting where
  | hopping
  | transmitIq
  | receiveIq
  | symbolTimeout
  deriving DecidableEq, Repr

namespace Call

def setting? : Call → Option Setting
  | .setHopping _ => some .hopping
  | .invertTransmitIq _ => some .transmitIq
  | .invertReceiveIq _ => some .receiveIq
  | .setSymbolTimeout _ => some .symbolTimeout
  | _ => none

theorem settingsAfter_comm {first second : Call} {one other : Setting}
    (hfirst : first.setting? = some one) (hsecond : second.setting? = some other)
    (apart : one ≠ other) (settings : Settings) :
    second.settingsAfter (first.settingsAfter settings) =
      first.settingsAfter (second.settingsAfter settings) := by
  cases first with
  | setHopping | invertTransmitIq | invertReceiveIq | setSymbolTimeout =>
      cases hfirst
      cases second with
      | setHopping | invertTransmitIq | invertReceiveIq | setSymbolTimeout =>
          cases hsecond
          first
          | rfl
          | exact absurd rfl apart
      | _ => simp [setting?] at hsecond
  | _ => simp [setting?] at hfirst

end Call

theorem Transceiver.call_of_setting {δ β ε : Type} [Driver δ β ε] {call : Call}
    {setting : Setting} (h : call.setting? = some setting) (radio : Transceiver δ)
    (bench : Bench) :
    radio.call call bench =
      ⟨.ok .done, { radio with settings := call.settingsAfter radio.settings }, bench⟩ := by
  cases call with
  | setHopping | invertTransmitIq | invertReceiveIq | setSymbolTimeout => rfl
  | _ => simp [Call.setting?] at h

namespace Usage

def applied {δ ε α : Type} (usage : Usage δ ε) (config : Command → Option α) : Option α :=
  usage.journal.findSome? fun called => called.command?.bind config

section Commuting

variable {δ β ε : Type} [Driver δ β ε]

theorem make_comm {first second : Call} {one other : Setting}
    (hfirst : first.setting? = some one) (hsecond : second.setting? = some other)
    (apart : one ≠ other) (usage : Usage δ ε) :
    ((usage.make first).make second).radio = ((usage.make second).make first).radio ∧
      ((usage.make first).make second).bench = ((usage.make second).make first).bench := by
  simp only [make, Transceiver.call_of_setting hfirst, Transceiver.call_of_setting hsecond,
    Call.settingsAfter_comm hfirst hsecond apart]
  exact ⟨trivial, trivial⟩

end Commuting

section Chips

variable {driver : SimulatedRadio} {board : SimulatedBoard} {settings : Settings} {bench : Bench}
  {opened : Usage SimulatedRadio ChipError} {steps : List (Step SimulatedRadio)}

theorem transmitConfig_run
    (h : (Transceiver.start driver board settings bench).opened? = some opened)
    (keeps : ∀ step ∈ steps, step.Keeps .transmission driver.chip) :
    ((opened.run steps).bench.chips driver.chip).transmitConfig =
      ((opened.run steps).applied Command.transmitConfig?).or
        (bench.chips driver.chip).transmitConfig :=
  ((agrees_opened h).run keeps).held.trans (stored_eq_or (fun _ _ => rfl) _ _)

theorem receiveConfig_run
    (h : (Transceiver.start driver board settings bench).opened? = some opened)
    (keeps : ∀ step ∈ steps, step.Keeps .reception driver.chip) :
    ((opened.run steps).bench.chips driver.chip).receiveConfig =
      ((opened.run steps).applied Command.receiveConfig?).or
        (bench.chips driver.chip).receiveConfig :=
  ((agrees_opened h).run keeps).held.trans (stored_eq_or (fun _ _ => rfl) _ _)

end Chips

/-- The settings at any time are those that were set up, but for what was written last.  The one
command of a configuration call is made of its arguments and of these: hopping, inversion and
timeout to transmit with LoRa; hopping, inversion, symbol timeout and continuity to receive; nothing
that can be written to transmit with FSK.  Calls that write different settings commute.  A simulated
chip holds what was applied last in either direction. -/
theorem configurations_apply_current_settings :
    (∀ {δ β ε : Type} [Driver δ β ε] (driver : δ) (board : β) (settings : Settings)
        (bench : Bench) (opened : Usage δ ε),
      (Transceiver.start driver board settings bench).opened? = some opened → ∀ steps,
      let usage := opened.run steps
      let hopping := (usage.last Call.hopping?).getD settings.hopping
      let transmitIq := (usage.last Call.transmitIq?).getD settings.invertTransmitIq
      let receiveIq := (usage.last Call.receiveIq?).getD settings.invertReceiveIq
      let symbols := (usage.last Call.symbolTimeout?).getD settings.symbolTimeout
      usage.radio.settings =
        { settings with
          hopping := hopping, invertTransmitIq := transmitIq, invertReceiveIq := receiveIq,
          symbolTimeout := symbols } ∧
      (∀ power bandwidth factor rate,
        usage.radio.driverCalls (.configureLoraTransmit power bandwidth factor rate) usage.bench =
          [.perform (.configureTransmit
            { modem := .lora, power := power, deviation := 0, bandwidth := bandwidth.code,
              datarate := factor.code, codingRate := rate.code,
              preambleLength := settings.preambleLength, fixedLength := settings.fixedLength,
              crc := settings.crc, hopping := hopping.isOn, hopPeriod := hopping.period,
              invertIq := transmitIq, timeout := settings.transmitTimeout })]) ∧
      (∀ bandwidth factor rate,
        usage.radio.driverCalls (.configureLoraReceive bandwidth factor rate) usage.bench =
          [.perform (.configureReceive
            { modem := .lora, bandwidth := bandwidth.code, datarate := factor.code,
              codingRate := rate.code, correctionBandwidth := 0,
              preambleLength := settings.preambleLength, symbolTimeout := symbols,
              fixedLength := settings.fixedLength, payloadLength := 0, crc := settings.crc,
              hopping := hopping.isOn, hopPeriod := hopping.period, invertIq := receiveIq,
              continuous := settings.continuousReceive })]) ∧
      (∀ power deviation datarate,
        usage.radio.driverCalls (.configureFskTransmit power deviation datarate) usage.bench =
          [.perform (.configureTransmit
            { modem := .fsk, power := power, deviation := deviation, bandwidth := 0,
              datarate := datarate, codingRate := 0, preambleLength := settings.preambleLength,
              fixedLength := settings.fixedLength, crc := settings.crc, hopping := false,
              hopPeriod := 0, invertIq := false, timeout := 0 })]) ∧
      (∀ (first second : Call) one other, first.setting? = some one →
        second.setting? = some other → one ≠ other →
        ((usage.make first).make second).radio = ((usage.make second).make first).radio ∧
          ((usage.make first).make second).bench = ((usage.make second).make first).bench)) ∧
    (∀ (driver : SimulatedRadio) (board : SimulatedBoard) (settings : Settings) (bench : Bench)
        (opened : Usage SimulatedRadio ChipError),
      (Transceiver.start driver board settings bench).opened? = some opened → ∀ steps,
      let usage := opened.run steps
      let chip := usage.bench.chips driver.chip
      ((∀ step ∈ steps, step.Keeps .transmission driver.chip) →
        chip.transmitConfig =
          (usage.applied Command.transmitConfig?).or (bench.chips driver.chip).transmitConfig) ∧
      ((∀ step ∈ steps, step.Keeps .reception driver.chip) →
        chip.receiveConfig =
          (usage.applied Command.receiveConfig?).or (bench.chips driver.chip).receiveConfig)) := by
  constructor
  · intro δ β ε _ driver board settings bench opened h steps usage hopping transmitIq receiveIq
      symbols
    have written : usage.radio.settings = usage.written settings := settings_run h steps
    refine ⟨written, ?_, ?_, ?_, ?_⟩
    · intro power bandwidth factor rate
      rw [Transceiver.driverCalls_eq, Transceiver.command?, written]
      rfl
    · intro bandwidth factor rate
      rw [Transceiver.driverCalls_eq, Transceiver.command?, written]
      rfl
    · intro power deviation datarate
      rw [Transceiver.driverCalls_eq, Transceiver.command?, written]
      rfl
    · intro first second one other hfirst hsecond apart
      exact make_comm hfirst hsecond apart usage
  · intro driver board settings bench opened h steps usage chip
    exact ⟨transmitConfig_run h, receiveConfig_run h⟩

/-- The chip keeps hopping after three symbols, while hopping is switched off for what comes
next. -/
theorem configurations_apply_current_settings_later :
    let configure : Call := .configureLoraTransmit 14 .khz500 .sf9 .fourSevenths
    let steps : List (Step SimulatedRadio) :=
      [.call (.setHopping (.every 9)), .call (.setHopping (.every 3)), .call configure,
        .call (.setHopping .off), .call (.invertTransmitIq true)]
    let usage := simulated.run steps
    let one := (simulated.make (.invertTransmitIq true)).make (.setHopping .off)
    let other := (simulated.make (.setHopping .off)).make (.invertTransmitIq true)
    let config : TransmitConfig :=
      { modem := .lora, power := 14, deviation := 0, bandwidth := 2, datarate := 9,
        codingRate := 3, preambleLength := 8, fixedLength := false, crc := true, hopping := true,
        hopPeriod := 3, invertIq := false, timeout := 3000 }
    (Transceiver.start ({ chip := 0 } : SimulatedRadio) {} {} {}).opened? = some simulated ∧
      usage.radio.driverCalls configure usage.bench =
        [.perform (.configureTransmit
          { config with hopping := false, hopPeriod := 0, invertIq := true })] ∧
      (usage.bench.chips 0).transmitConfig = some config ∧
      one.radio = other.radio := by
  intro configure steps usage one other config
  obtain ⟨generally, onChip⟩ := configurations_apply_current_settings
  have keeps : ∀ step ∈ steps, step.Keeps .transmission 0 := by simp [steps, Step.Keeps]
  obtain ⟨_, lora, _⟩ := generally (ε := ChipError) _ _ _ _ simulated opened_simulated steps
  obtain ⟨_, _, _, _, comm⟩ := generally (ε := ChipError) _ _ _ _ simulated opened_simulated []
  have held := (onChip _ _ _ _ simulated opened_simulated steps).1 keeps
  refine ⟨opened_simulated, lora 14 .khz500 .sf9 .fourSevenths, ?_, ?_⟩
  · have applied : usage.applied Command.transmitConfig? = some config := by decide +kernel
    exact held.trans (congrArg (Option.or · _) applied)
  · exact (comm (.invertTransmitIq true) (.setHopping .off) .transmitIq .hopping rfl rfl nofun).1

end Usage

end RadioInterrupt
