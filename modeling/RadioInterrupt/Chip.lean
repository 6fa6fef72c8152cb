import RadioInterrupt.Outcome
import RadioInterrupt.Settings

/-!
A simulated radio chip.

The chip latches interrupt causes and services the oldest one when its line handler runs.  A
timeout is reported for the operation that the chip's mode names.  Servicing a cause ends the
operation, except that continuous reception goes on after a frame.
-/

namespace RadioInterrupt

inductive Mode where
  | sleep
  | standby
  | transmit
  | receive
  deriving DecidableEq, Repr

def Mode.name : Mode → String
  | .sleep => "Sleep"
  | .standby => "Standby"
  | .transmit => "Tx"
  | .receive => "Rx"

inductive Cause where
  | txDone
  | rxDone (frame : Frame)
  | timeout
  | crcError
  | headerError
  deriving DecidableEq, Repr

def Cause.report (cause : Cause) (mode : Mode) : Report :=
  match cause with
  | .txDone => .txDone
  | .rxDone frame => .rxDone frame
  | .timeout => if mode = .transmit then .txTimeout else .rxTimeout
  | .crcError => .rxError
  | .headerError => .rxError

def Cause.isFrame : Cause → Bool
  | .rxDone _ => true
  | _ => false

inductive ChipError where
  | noResponse
  | payloadTooLarge (size limit : Nat)
  deriving DecidableEq, Repr

def payloadMessage (size limit : Nat) : String :=
  "payload too large: " ++ toString size ++ " bytes (max " ++ toString limit ++ ")"

def ChipError.message : ChipError → String
  | .noResponse => "radio did not respond"
  | .payloadTooLarge size limit => payloadMessage size limit

structure Chip where
  mode : Mode := .sleep
  /-- Latched causes, oldest first. -/
  pending : List Cause := []
  frequency : UInt32 := 0
  publicNetwork : Bool := false
  transmitConfig : Option TransmitConfig := none
  receiveConfig : Option ReceiveConfig := none
  sent : List Bytes := []
  receiveTimeout : Option UInt32 := none
  bringUps : UInt32 := 0
  sleeps : UInt32 := 0
  deriving DecidableEq, Repr

namespace Chip

def latch (chip : Chip) (cause : Cause) : Chip :=
  { chip with pending := chip.pending ++ [cause] }

def continuous (chip : Chip) : Bool :=
  chip.receiveConfig.any ReceiveConfig.continuous

def modeAfter (chip : Chip) (cause : Cause) : Mode :=
  if cause.isFrame ∧ chip.mode = .receive ∧ chip.continuous then .receive else .standby

/-- Services the oldest cause, if there is one: what it is reported as, and the chip after it. -/
def service (chip : Chip) : Option (Report × Chip) :=
  match chip.pending with
  | [] => none
  | cause :: rest =>
      some (cause.report chip.mode, { chip with pending := rest, mode := chip.modeAfter cause })

def standby (chip : Chip) : Chip :=
  { chip with mode := .standby }

def bringUp (chip : Chip) : Chip :=
  { chip with mode := .standby, bringUps := chip.bringUps + 1 }

def fallAsleep (chip : Chip) : Chip :=
  { chip with mode := .sleep, sleeps := chip.sleeps + 1 }

def send (chip : Chip) (payload : Bytes) : Except ChipError Chip :=
  if maxPayload < payload.length then .error (.payloadTooLarge payload.length maxPayload)
  else .ok { chip with sent := chip.sent ++ [payload], mode := .transmit }

def receive (chip : Chip) (timeout : UInt32) : Chip :=
  { chip with receiveTimeout := some timeout, mode := .receive }

theorem service_of_nil {chip : Chip} (h : chip.pending = []) : chip.service = none := by
  simp [service, h]

theorem service_of_cons {chip : Chip} {cause : Cause} {rest : List Cause}
    (h : chip.pending = cause :: rest) :
    chip.service =
      some (cause.report chip.mode,
        { chip with pending := rest, mode := chip.modeAfter cause }) := by
  simp [service, h]

end Chip

end RadioInterrupt
