import RadioInterrupt.Outcome

/-!
Modem settings and the configurations that they lead to.

`Settings` are kept between operations.  Together with the modulation chosen for one operation they
give a `TransmitConfig` or a `ReceiveConfig`, which is what a driver is handed.  `Settings.validate`
names the first rule that settings break, and `Settings.Valid` is the conjunction of the rules.
-/

namespace RadioInterrupt

def maxPayload : Nat := 255

def defaultTransmitTimeout : UInt32 := 3000

inductive Modem where
  | fsk
  | lora
  deriving DecidableEq, Repr

inductive Bandwidth where
  | khz125
  | khz250
  | khz500
  deriving DecidableEq, Repr

namespace Bandwidth

def hertz : Bandwidth → UInt32
  | .khz125 => 125000
  | .khz250 => 250000
  | .khz500 => 500000

def code : Bandwidth → UInt32
  | .khz125 => 0
  | .khz250 => 1
  | .khz500 => 2

end Bandwidth

inductive SpreadingFactor where
  | sf7
  | sf8
  | sf9
  | sf10
  | sf11
  | sf12
  deriving DecidableEq, Repr

def SpreadingFactor.code : SpreadingFactor → UInt32
  | .sf7 => 7
  | .sf8 => 8
  | .sf9 => 9
  | .sf10 => 10
  | .sf11 => 11
  | .sf12 => 12

inductive CodingRate where
  | fourFifths
  | fourSixths
  | fourSevenths
  | fourEighths
  deriving DecidableEq, Repr

def CodingRate.code : CodingRate → UInt8
  | .fourFifths => 1
  | .fourSixths => 2
  | .fourSevenths => 3
  | .fourEighths => 4

inductive Hopping where
  | off
  | every (symbols : UInt8)
  deriving DecidableEq, Repr

namespace Hopping

def isOn : Hopping → Bool
  | .off => false
  | .every _ => true

def period : Hopping → UInt8
  | .off => 0
  | .every symbols => symbols

end Hopping

structure TransmitConfig where
  modem : Modem
  power : Int8
  deviation : UInt32
  bandwidth : UInt32
  datarate : UInt32
  codingRate : UInt8
  preambleLength : UInt16
  fixedLength : Bool
  crc : Bool
  hopping : Bool
  hopPeriod : UInt8
  invertIq : Bool
  timeout : UInt32
  deriving DecidableEq, Repr

structure ReceiveConfig where
  modem : Modem
  bandwidth : UInt32
  datarate : UInt32
  codingRate : UInt8
  correctionBandwidth : UInt32
  preambleLength : UInt16
  symbolTimeout : UInt16
  fixedLength : Bool
  payloadLength : UInt8
  crc : Bool
  hopping : Bool
  hopPeriod : UInt8
  invertIq : Bool
  continuous : Bool
  deriving DecidableEq, Repr

structure Settings where
  invertTransmitIq : Bool := false
  invertReceiveIq : Bool := true
  hopping : Hopping := .off
  crc : Bool := true
  fixedLength : Bool := false
  preambleLength : UInt16 := 8
  symbolTimeout : UInt16 := 5
  continuousReceive : Bool := true
  /-- Transmit timeout in milliseconds. -/
  transmitTimeout : UInt32 := defaultTransmitTimeout
  deriving DecidableEq, Repr

inductive SettingsError where
  | shortPreamble
  | noSymbolTimeout
  | noTransmitTimeout
  | noHopPeriod
  /-- A reason that no rule of `Settings.validate` gives. -/
  | other (reason : String)
  deriving DecidableEq, Repr

namespace SettingsError

def reason : SettingsError → String
  | .shortPreamble => "preamble_len must be >= 6"
  | .noSymbolTimeout => "symbol_timeout must be > 0 for single receive"
  | .noTransmitTimeout => "tx_timeout_ms must be > 0"
  | .noHopPeriod => "hop period must be > 0 symbols"
  | .other reason => reason

def message (fault : SettingsError) : String :=
  "invalid radio config: " ++ fault.reason

end SettingsError

namespace Settings

def validate (settings : Settings) : Except SettingsError Unit :=
  if settings.preambleLength < 6 then .error .shortPreamble
  else if settings.symbolTimeout = 0 ∧ settings.continuousReceive = false then
    .error .noSymbolTimeout
  else if settings.transmitTimeout = 0 then .error .noTransmitTimeout
  else if settings.hopping = .every 0 then .error .noHopPeriod
  else .ok ()

structure Valid (settings : Settings) : Prop where
  preamble : 6 ≤ settings.preambleLength
  symbolTimeout : settings.symbolTimeout ≠ 0 ∨ settings.continuousReceive = true
  transmitTimeout : settings.transmitTimeout ≠ 0
  hopPeriod : settings.hopping ≠ .every 0

def loraTransmit (settings : Settings) (power : Int8) (bandwidth : Bandwidth)
    (factor : SpreadingFactor) (rate : CodingRate) : TransmitConfig where
  modem := .lora
  power := power
  deviation := 0
  bandwidth := bandwidth.code
  datarate := factor.code
  codingRate := rate.code
  preambleLength := settings.preambleLength
  fixedLength := settings.fixedLength
  crc := settings.crc
  hopping := settings.hopping.isOn
  hopPeriod := settings.hopping.period
  invertIq := settings.invertTransmitIq
  timeout := settings.transmitTimeout

/-- The configuration of an FSK transmission, which neither hops nor inverts nor times out. -/
def fskTransmit (settings : Settings) (power : Int8) (deviation datarate : UInt32) :
    TransmitConfig where
  modem := .fsk
  power := power
  deviation := deviation
  bandwidth := 0
  datarate := datarate
  codingRate := 0
  preambleLength := settings.preambleLength
  fixedLength := settings.fixedLength
  crc := settings.crc
  hopping := false
  hopPeriod := 0
  invertIq := false
  timeout := 0

def loraReceive (settings : Settings) (bandwidth : Bandwidth) (factor : SpreadingFactor)
    (rate : CodingRate) : ReceiveConfig where
  modem := .lora
  bandwidth := bandwidth.code
  datarate := factor.code
  codingRate := rate.code
  correctionBandwidth := 0
  preambleLength := settings.preambleLength
  symbolTimeout := settings.symbolTimeout
  fixedLength := settings.fixedLength
  payloadLength := 0
  crc := settings.crc
  hopping := settings.hopping.isOn
  hopPeriod := settings.hopping.period
  invertIq := settings.invertReceiveIq
  continuous := settings.continuousReceive

theorem validate_eq_ok_iff {settings : Settings} :
    settings.validate = .ok () ↔ settings.Valid := by
  constructor
  · intro h
    unfold validate at h
    split at h
    · contradiction
    split at h
    · contradiction
    split at h
    · contradiction
    split at h
    · contradiction
    · rename_i preamble symbols timeout hop
      refine ⟨UInt16.not_lt.mp preamble, ?_, timeout, hop⟩
      by_cases zero : settings.symbolTimeout = 0
      · exact .inr (by simpa [zero] using symbols)
      · exact .inl zero
  · rintro ⟨preamble, symbols, timeout, hop⟩
    have single : ¬ (settings.symbolTimeout = 0 ∧ settings.continuousReceive = false) := by
      rcases symbols with h | h <;> simp [h]
    simp [validate, UInt16.not_lt.mpr preamble, single, timeout, hop]

end Settings

end RadioInterrupt
