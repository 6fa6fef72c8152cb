/-!
Outcomes of a dispatch and the reports that lead to them.

`busy` is the outcome of a dispatch in which nothing was reported.  The other five are terminal and
each is the outcome of one kind of `Report`; a received frame travels inside its report.
-/

namespace RadioInterrupt

abbrev Bytes := List UInt8

inductive Outcome where
  | busy
  | txDone
  | rxDone
  | txTimeout
  | rxTimeout
  | rxError
  deriving DecidableEq, Repr

namespace Outcome

def code : Outcome → UInt8
  | .busy => 0
  | .txDone => 1
  | .rxDone => 2
  | .txTimeout => 3
  | .rxTimeout => 4
  | .rxError => 5

/-- Reads an outcome back from its byte; a byte that stands for none reads as `busy`. -/
def ofCode (code : UInt8) : Outcome :=
  if code = 1 then .txDone
  else if code = 2 then .rxDone
  else if code = 3 then .txTimeout
  else if code = 4 then .rxTimeout
  else if code = 5 then .rxError
  else .busy

def isTerminal (outcome : Outcome) : Bool :=
  outcome != .busy

def name : Outcome → String
  | .busy => "Busy"
  | .txDone => "TxDone"
  | .rxDone => "RxDone"
  | .txTimeout => "TxTimeout"
  | .rxTimeout => "RxTimeout"
  | .rxError => "RxError"

def label : Outcome → String
  | .busy => "busy"
  | .txDone => "tx done"
  | .rxDone => "rx done"
  | .txTimeout => "tx timeout"
  | .rxTimeout => "rx timeout"
  | .rxError => "rx error"

@[simp] theorem ofCode_code (outcome : Outcome) : ofCode outcome.code = outcome := by
  cases outcome <;> decide

@[simp] theorem isTerminal_busy : busy.isTerminal = false := rfl

end Outcome

/-- A frame as the chip hands it over: the bytes, the signal strength in dBm and the
signal-to-noise ratio in dB. -/
structure Frame where
  payload : Bytes
  rssi : Int16
  snr : Int8
  deriving DecidableEq, Repr

inductive Report where
  | txDone
  | rxDone (frame : Frame)
  | txTimeout
  | rxTimeout
  | rxError
  deriving DecidableEq, Repr

namespace Report

def outcome : Report → Outcome
  | .txDone => .txDone
  | .rxDone _ => .rxDone
  | .txTimeout => .txTimeout
  | .rxTimeout => .rxTimeout
  | .rxError => .rxError

@[simp] theorem isTerminal_outcome (report : Report) : report.outcome.isTerminal = true := by
  cases report <;> rfl

theorem outcome_ne_busy (report : Report) : report.outcome ≠ .busy := by
  cases report <;> exact nofun

end Report

end RadioInterrupt
