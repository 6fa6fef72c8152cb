import RadioInterrupt.Drain
import RadioInterrupt.LogFilter
import RadioInterrupt.SimulatedRadio
import RadioInterrupt.Transceiver

/-!
A demonstration on simulated radios.

The first part drives a transceiver through a transmission, receptions, timeouts and errors.  The
second part posts a burst of events to a queue and drains it into a dispatcher.  Each part ends with
its counters on the standard output.
-/

namespace RadioInterrupt.Demo

structure Run where
  exitCode : UInt8
  stdout : String
  log : List Message

structure Scene where
  radio : Transceiver SimulatedRadio
  bench : Bench

abbrev Scenario :=
  ExceptT (RadioError ChipError) (StateM Scene)

def say (level : Level) (text : String) : Scenario Unit :=
  modify fun scene => { scene with bench := scene.bench.say [.program level text] }

def call (call : Call) : Scenario Reply := do
  let scene ← get
  let run : CallRun SimulatedRadio ChipError Reply := scene.radio.call call scene.bench
  set (Scene.mk run.radio run.bench)
  ExceptT.mk (pure run.result)

def respond (event : Event) : Scenario Unit := do
  match ← call (.handle event) with
  | .response response => say .info (event.label ++ " -> " ++ response.describe)
  | .done => pure ()

def interrupt (cause : Cause) (event : Event) : Scenario Unit := do
  modify fun scene =>
    let number := scene.radio.driver.chip
    { scene with bench := scene.bench.setChip number ((scene.bench.chips number).latch cause) }
  respond event

def ascii (text : String) : Bytes :=
  text.toList.map fun c => c.val.toUInt8

def asciiText (bytes : Bytes) : String :=
  String.ofList (bytes.map fun byte => Char.ofUInt8 byte)

def countersText (label : String) (counters : Counters) : String :=
  label ++ " stats:\n" ++ counters.toJsonLines ++ "\n"

def scenario : Scenario Unit := do
  discard <| call (.setFrequency 868100000)
  discard <| call (.configureLoraTransmit 14 .khz125 .sf10 .fourFifths)
  discard <| call (.configureLoraReceive .khz125 .sf10 .fourFifths)
  discard <| call (.send (ascii "hello"))
  interrupt .txDone (.line 0)
  discard <| call .listen
  interrupt (.rxDone ⟨ascii "world", -80, 7⟩) (.line 1)
  say .info ("received " ++ Text.quoted (asciiText (← get).radio.frame))
  interrupt (.rxDone ⟨List.replicate 300 0x55, -110, -12⟩) (.line 1)
  let radio := (← get).radio
  say .info ("oversized frame: " ++ toString radio.dispatcher.info.length.toNat ++
    " bytes reported, " ++ toString radio.frame.length ++ " kept")
  interrupt .timeout (.line 0)
  interrupt .crcError (.line 0)
  respond (.timer .timer1)
  respond (.timer .timer3)
  try
    match ← call (.handle (.line 3)) with
    | .response response => say .warn ("DIO3 unexpectedly handled: " ++ response.describe)
    | .done => pure ()
  catch error => say .info ("DIO3 -> " ++ error.message)

def transceiverPart (bench : Bench) : Except (RadioError ChipError) String × Bench :=
  let start := Transceiver.start ({ chip := 0 } : SimulatedRadio) {} {} bench
  match start.result with
  | .error error => (.error error, start.bench)
  | .ok radio =>
      let (result, scene) := scenario.run.run ⟨radio, start.bench⟩
      (result.map fun _ => countersText "facade" scene.radio.dispatcher.counters, scene.bench)

def postFrame (bench : Bench) (i : Nat) : Bench :=
  let frame : Frame := ⟨List.replicate (i + 1) (UInt8.ofNat i), -70 - Int16.ofNat i, 5⟩
  let bench := bench.setChip 1 ((bench.chips 1).latch (.rxDone frame))
  match bench.post 0 (.line 1) with
  | (.refused refusal, bench) => bench.say [.program .warn refusal.message]
  | (_, bench) => bench

def announce : Dispatcher.Announce
  | event, .ok outcome => [.program .info (event.label ++ " -> " ++ outcome.label)]
  | _, .error fault => [.program .warn fault.message]

def queuePart (bench : Bench) : Except ChipError String × Bench :=
  let run := Dispatcher.install {} ({ chip := 1 } : SimulatedRadio) {} bench
  match run.result with
  | .error error => (.error error, run.bench)
  | .ok _ =>
      let dispatcher := run.dispatcher.setBuffer (.owned (List.replicate 64 0))
      let bench := { run.bench with queue := PostQueue.make? PostQueue.defaultCapacity }
      let bench := (List.range 8).foldl postFrame bench
      let drained := dispatcher.drain bench announce
      let dropped := drained.bench.queue.elim 0 PostQueue.dropped
      let bench := drained.bench.say
        [.program .info ("drained " ++ toString drained.count ++ " events, " ++
          toString dropped.toNat ++ " dropped")]
      (.ok (countersText "queue" drained.dispatcher.counters), bench)

def run : Run :=
  let bench : Bench := ({} : Bench).say [.program .info "=== sx12xx-irq simulator ==="]
  match transceiverPart bench with
  | (.error error, bench) =>
      ⟨1, "", bench.log ++ [.program .error ("radio scenario failed: " ++ error.message)]⟩
  | (.ok first, bench) =>
      match queuePart bench with
      | (.error error, bench) =>
          ⟨1, first, bench.log ++ [.program .error ("bridge init failed: " ++ driverFailure error)]⟩
      | (.ok second, bench) => ⟨0, first ++ second, bench.log⟩

def Run.lines (run : Run) (setting : Option String) : List String :=
  (LogFilter.ofSetting setting).1.lines run.log

end RadioInterrupt.Demo
