import RadioInterrupt.Event
import RadioInterrupt.Outcome
import RadioInterrupt.Settings

/-!
The messages that the library logs.

Each message is a constructor with the facts that it reports; its level, the part of the library
that it comes from and its text are functions of it.
-/

namespace RadioInterrupt

inductive Level where
  | error
  | warn
  | info
  | debug
  deriving DecidableEq, Repr

namespace Level

def name : Level → String
  | .error => "ERROR"
  | .warn => "WARN"
  | .info => "INFO"
  | .debug => "DEBUG"

/-- Larger numbers are less severe. -/
def verbosity : Level → Nat
  | .error => 1
  | .warn => 2
  | .info => 3
  | .debug => 4

end Level

inductive Source where
  | dispatcher
  | registry
  | transceiver
  | chip
  | queue
  | program
  deriving DecidableEq, Repr

def Source.path : Source → String
  | .dispatcher => "sx12xx_irq::bridge"
  | .registry => "sx12xx_irq::driver"
  | .transceiver => "sx12xx_irq::radio"
  | .chip => "sx12xx_irq::sim"
  | .queue => "sx12xx_irq::queue"
  | .program => "sim_radio"

inductive Message where
  | bufferReleased
  | bringUpFailed
  | sleepFailed
  | noLineHandlers
  | initialized (lines timers : Nat)
  | lineUnconfigured (event : Event) (slot : Nat)
  | timerUnconfigured (event : Event)
  | dispatched (event : Event) (outcome : Outcome)
  | keptFirst (dropped kept : Outcome)
  | frameTruncated (copied received : Nat)
  | frameUnbuffered (received : Nat)
  | tableReloaded
  | tableLoaded (configured : Nat)
  | lineReplaced (index : Nat)
  | timerReplaced (timer : Timer)
  | queueFull (event : Event)
  | drained (count : Nat)
  | chipUp (timers : Bool)
  | spurious
  | sending (length : Nat)
  | transmitConfigured (power : Int8) (bandwidth : Bandwidth) (factor : SpreadingFactor)
      (rate : CodingRate)
  | program (level : Level) (text : String)
  deriving DecidableEq, Repr

namespace Message

def level : Message → Level
  | .bringUpFailed | .sleepFailed | .lineUnconfigured .. => .error
  | .noLineHandlers | .keptFirst .. | .frameTruncated .. | .tableReloaded | .lineReplaced _
  | .timerReplaced _ | .queueFull _ => .warn
  | .initialized .. | .chipUp _ | .transmitConfigured .. => .info
  | .bufferReleased | .timerUnconfigured _ | .dispatched .. | .frameUnbuffered _ | .tableLoaded _
  | .drained _ | .spurious | .sending _ => .debug
  | .program level _ => level

def source : Message → Source
  | .bufferReleased | .bringUpFailed | .sleepFailed | .noLineHandlers | .initialized ..
  | .lineUnconfigured .. | .timerUnconfigured _ | .dispatched .. | .keptFirst ..
  | .frameTruncated .. | .frameUnbuffered _ => .dispatcher
  | .tableReloaded | .tableLoaded _ | .lineReplaced _ | .timerReplaced _ => .registry
  | .queueFull _ | .drained _ => .queue
  | .chipUp _ | .spurious => .chip
  | .sending _ | .transmitConfigured .. => .transceiver
  | .program .. => .program

def text : Message → String
  | .bufferReleased => "rx buffer released on init"
  | .bringUpFailed => "radio driver init failed, no handlers installed"
  | .sleepFailed => "radio failed to enter sleep, no handlers installed"
  | .noLineHandlers => "radio driver registered no DIO handlers, line events will fail"
  | .initialized lines timers =>
      "radio initialized: " ++ toString lines ++ " DIO handlers, " ++ toString timers ++
        " timer handlers"
  | .lineUnconfigured event slot =>
      event.label ++ " fired but slot " ++ toString slot ++ " has no handler"
  | .timerUnconfigured event => event.label ++ " has no handler, ignored"
  | .dispatched event outcome => event.label ++ " -> " ++ outcome.label
  | .keptFirst dropped kept =>
      "handler reported " ++ dropped.label ++ " after " ++ kept.label ++ ", keeping the first"
  | .frameTruncated copied received =>
      "received " ++ toString received ++ " bytes, rx buffer holds " ++ toString copied ++
        "; frame truncated"
  | .frameUnbuffered received =>
      "received " ++ toString received ++ " bytes with no rx buffer registered"
  | .tableReloaded => "dispatch table registered again, overwriting existing handlers"
  | .tableLoaded configured =>
      "dispatch table loaded: " ++ toString configured ++ " of 6 slots configured"
  | .lineReplaced index => "DIO slot " ++ toString index ++ " handler replaced"
  | .timerReplaced timer => timer.name ++ " handler replaced"
  | .queueFull event => "irq queue full, dropping " ++ event.label
  | .drained count => "drained " ++ toString count ++ " irq events"
  | .chipUp timers =>
      "simulated radio up (timers: " ++ (if timers then "true" else "false") ++ ")"
  | .spurious => "spurious DIO interrupt"
  | .sending length => "sending " ++ toString length ++ " bytes"
  | .transmitConfigured power bandwidth factor rate =>
      "LoRa tx: " ++ toString power.toInt ++ " dBm, " ++ toString bandwidth.hertz.toNat ++
        " Hz, SF" ++ toString factor.code.toNat ++ ", CR 4/" ++ toString (rate.code.toNat + 4)
  | .program _ text => text

end Message

end RadioInterrupt
