import RadioInterrupt.Driver

/-!
A driver for the simulated chips of a bench.

The driver stores one line handler, at slot 0, which services the chip's causes, and on a board with
timers one handler for each of the two timeout timers.
-/

namespace RadioInterrupt

structure SimulatedRadio where
  chip : Nat
  responsive : Bool := true
  deriving DecidableEq, Repr

structure SimulatedBoard where
  /-- The board has the transmit and receive timeout timers. -/
  timers : Bool := true
  deriving DecidableEq, Repr

namespace SimulatedRadio

def requests (radio : SimulatedRadio) (board : SimulatedBoard) : List Request :=
  if radio.responsive then
    .line 0 (.chipLine radio.chip) ::
      if board.timers then
        [.timer .timer1 (.chipTimer radio.chip .txTimeout),
         .timer .timer2 (.chipTimer radio.chip .rxTimeout)]
      else []
  else []

def bringUp (radio : SimulatedRadio) (board : SimulatedBoard) (bench : Bench) :
    Except ChipError Unit × Bench :=
  if radio.responsive then
    (.ok (), (bench.setChip radio.chip (bench.chips radio.chip).bringUp).say
      [.chipUp board.timers])
  else (.error .noResponse, bench)

def command (chip : Chip) : Command → Except ChipError Chip
  | .sleep => .ok chip.fallAsleep
  | .setChannel hertz => .ok { chip with frequency := hertz }
  | .setPublicNetwork enable => .ok { chip with publicNetwork := enable }
  | .configureTransmit config => .ok { chip with transmitConfig := some config }
  | .configureReceive config => .ok { chip with receiveConfig := some config }
  | .send payload => chip.send payload
  | .receive timeout => .ok (chip.receive timeout)

def perform (radio : SimulatedRadio) (request : Command) (bench : Bench) :
    Except ChipError Unit × Bench :=
  match command (bench.chips radio.chip) request with
  | .error error => (.error error, bench)
  | .ok chip => (.ok (), bench.setChip radio.chip chip)

instance : Driver SimulatedRadio SimulatedBoard ChipError where
  requests := requests
  bringUp radio board _ bench :=
    let (result, bench) := radio.bringUp board bench
    (result, radio, bench)
  perform radio request bench :=
    let (result, bench) := radio.perform request bench
    (result, radio, bench)

end SimulatedRadio

end RadioInterrupt
