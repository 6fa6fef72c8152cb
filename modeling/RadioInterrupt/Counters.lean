import RadioInterrupt.Outcome

/-!
Counters of a dispatcher, each a 64-bit word, and their JSON form.

`dispatched` counts events; the outcome counters and `unconfigured` count how they ended;
`timerIgnored`, `rxTruncated` and `rxUnbuffered` single out some of those ends.
-/

namespace RadioInterrupt

structure Counters where
  dispatched : UInt64 := 0
  txDone : UInt64 := 0
  rxDone : UInt64 := 0
  txTimeout : UInt64 := 0
  rxTimeout : UInt64 := 0
  rxError : UInt64 := 0
  busy : UInt64 := 0
  unconfigured : UInt64 := 0
  timerIgnored : UInt64 := 0
  /-- Accepted frames that were longer than the buffer. -/
  rxTruncated : UInt64 := 0
  /-- Accepted frames for which no buffer was registered. -/
  rxUnbuffered : UInt64 := 0
  deriving DecidableEq, Repr

namespace Counters

def record (counters : Counters) : Outcome → Counters
  | .busy => { counters with busy := counters.busy + 1 }
  | .txDone => { counters with txDone := counters.txDone + 1 }
  | .rxDone => { counters with rxDone := counters.rxDone + 1 }
  | .txTimeout => { counters with txTimeout := counters.txTimeout + 1 }
  | .rxTimeout => { counters with rxTimeout := counters.rxTimeout + 1 }
  | .rxError => { counters with rxError := counters.rxError + 1 }

def entries (counters : Counters) : List (String × UInt64) :=
  [("dispatched", counters.dispatched),
   ("tx_done", counters.txDone),
   ("rx_done", counters.rxDone),
   ("tx_timeout", counters.txTimeout),
   ("rx_timeout", counters.rxTimeout),
   ("rx_error", counters.rxError),
   ("busy", counters.busy),
   ("unconfigured", counters.unconfigured),
   ("timer_ignored", counters.timerIgnored),
   ("rx_truncated", counters.rxTruncated),
   ("rx_unbuffered", counters.rxUnbuffered)]

def toJson (counters : Counters) : String :=
  let fields := counters.entries.map fun (name, count) =>
    "\"" ++ name ++ "\":" ++ toString count.toNat
  "\x7b" ++ ",".intercalate fields ++ "\x7d"

def toJsonLines (counters : Counters) : String :=
  let fields := counters.entries.map fun (name, count) =>
    "  \"" ++ name ++ "\": " ++ toString count.toNat
  "\x7b\n" ++ ",\n".intercalate fields ++ "\n\x7d"

end Counters

end RadioInterrupt
