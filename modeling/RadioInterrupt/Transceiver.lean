import RadioInterrupt.Driver

/-!
A transceiver: a driver, its dispatcher, the settings and one frame buffer.

The frame buffer holds the outgoing frame, or the last received one.  Configuration calls hand the
driver the settings of that moment; transmissions are checked against the largest payload; a
dispatched event is answered with a `Response` that carries the link figures of a received frame.
-/

namespace RadioInterrupt

inductive Response where
  | busy
  | txDone
  | rxDone (rssi : Int16) (snr : Int8)
  | txTimeout
  | rxTimeout
  | rxError
  deriving DecidableEq, Repr

namespace Response

def ofOutcome (outcome : Outcome) (info : FrameInfo) : Response :=
  match outcome with
  | .busy => .busy
  | .txDone => .txDone
  | .rxDone => .rxDone info.rssi info.snr
  | .txTimeout => .txTimeout
  | .rxTimeout => .rxTimeout
  | .rxError => .rxError

def outcome : Response → Outcome
  | .busy => .busy
  | .txDone => .txDone
  | .rxDone _ _ => .rxDone
  | .txTimeout => .txTimeout
  | .rxTimeout => .rxTimeout
  | .rxError => .rxError

def describe : Response → String
  | .rxDone rssi snr =>
      "RxDone(RxQuality \x7b rssi: " ++ toString rssi.toInt ++ ", snr: " ++ toString snr.toInt ++
        " \x7d)"
  | response => response.outcome.name

@[simp] theorem outcome_ofOutcome (outcome : Outcome) (info : FrameInfo) :
    (ofOutcome outcome info).outcome = outcome := by
  cases outcome <;> rfl

end Response

inductive RadioError (ε : Type) where
  | driver (error : ε)
  | dispatch (fault : Unconfigured)
  | settings (fault : SettingsError)
  | payloadTooLarge (size limit : Nat)
  deriving DecidableEq, Repr

def RadioError.message {ε : Type} [Describe ε] : RadioError ε → String
  | .driver error => driverFailure error
  | .dispatch fault => "dispatch error: " ++ fault.message
  | .settings fault => fault.message
  | .payloadTooLarge size limit => payloadMessage size limit

structure Transceiver (δ : Type) where
  driver : δ
  dispatcher : Dispatcher
  settings : Settings
  /-- The outgoing frame, or the last received one. -/
  frame : Bytes := []

structure CallRun (δ ε α : Type) where
  result : Except (RadioError ε) α
  radio : Transceiver δ
  bench : Bench

structure StartRun (δ ε : Type) where
  result : Except (RadioError ε) (Transceiver δ)
  driver : δ
  bench : Bench

namespace Transceiver

variable {δ β ε : Type}

def start [Driver δ β ε] (driver : δ) (board : β) (settings : Settings) (bench : Bench) :
    StartRun δ ε :=
  match settings.validate with
  | .error fault => ⟨.error (.settings fault), driver, bench⟩
  | .ok _ =>
      let run := Dispatcher.install {} driver board bench
      match run.result with
      | .error error => ⟨.error (.driver error), run.driver, run.bench⟩
      | .ok _ =>
          ⟨.ok { driver := run.driver, dispatcher := run.dispatcher, settings }, run.driver,
            run.bench⟩

def received (dispatcher : Dispatcher) : Bytes :=
  (dispatcher.inbox.registered.getD []).take dispatcher.info.length.toNat

def frameAfter (frame : Bytes) (dispatcher : Dispatcher) : Outcome → Bytes
  | .txDone => []
  | .rxDone => received dispatcher
  | _ => frame

def handle (radio : Transceiver δ) (event : Event) (bench : Bench) : CallRun δ ε Response :=
  let run := radio.dispatcher.dispatch event bench
  match run.result with
  | .error fault =>
      ⟨.error (.dispatch fault), { radio with dispatcher := run.dispatcher }, run.bench⟩
  | .ok outcome =>
      ⟨.ok (.ofOutcome outcome run.dispatcher.info),
        { radio with
          dispatcher := run.dispatcher
          frame := frameAfter radio.frame run.dispatcher outcome },
        run.bench⟩

def perform [Driver δ β ε] (radio : Transceiver δ) (command : Command) (bench : Bench) :
    CallRun δ ε Unit :=
  let (result, driver, bench) := Driver.perform radio.driver command bench
  ⟨result.mapError .driver, { radio with driver }, bench⟩

def sendFrame [Driver δ β ε] (radio : Transceiver δ) (bench : Bench) : CallRun δ ε Unit :=
  if maxPayload < radio.frame.length then
    ⟨.error (.payloadTooLarge radio.frame.length maxPayload), radio, bench⟩
  else
    radio.perform (.send radio.frame) (bench.say [.sending radio.frame.length])

def send [Driver δ β ε] (radio : Transceiver δ) (payload : Bytes) (bench : Bench) :
    CallRun δ ε Unit :=
  if maxPayload < payload.length then
    ⟨.error (.payloadTooLarge payload.length maxPayload), radio, bench⟩
  else
    { radio with frame := payload }.sendFrame bench

/-- Registers a zeroed buffer for the largest frame, unless one of that size is registered. -/
def prepareBuffer (dispatcher : Dispatcher) : Dispatcher :=
  if dispatcher.inbox.registered.map List.length = some maxPayload then dispatcher
  else dispatcher.setBuffer (.owned (List.replicate maxPayload 0))

def listen [Driver δ β ε] (radio : Transceiver δ) (bench : Bench) : CallRun δ ε Unit :=
  { radio with dispatcher := prepareBuffer radio.dispatcher }.perform (.receive 0) bench

def release (radio : Transceiver δ) : Transceiver δ :=
  { radio with dispatcher := radio.dispatcher.takeBuffer }

def configureLoraTransmit [Driver δ β ε] (radio : Transceiver δ) (power : Int8)
    (bandwidth : Bandwidth) (factor : SpreadingFactor) (rate : CodingRate) (bench : Bench) :
    CallRun δ ε Unit :=
  radio.perform (.configureTransmit (radio.settings.loraTransmit power bandwidth factor rate))
    (bench.say [.transmitConfigured power bandwidth factor rate])

def configureLoraReceive [Driver δ β ε] (radio : Transceiver δ) (bandwidth : Bandwidth)
    (factor : SpreadingFactor) (rate : CodingRate) (bench : Bench) : CallRun δ ε Unit :=
  radio.perform (.configureReceive (radio.settings.loraReceive bandwidth factor rate)) bench

def configureFskTransmit [Driver δ β ε] (radio : Transceiver δ) (power : Int8)
    (deviation datarate : UInt32) (bench : Bench) : CallRun δ ε Unit :=
  radio.perform (.configureTransmit (radio.settings.fskTransmit power deviation datarate)) bench

end Transceiver

inductive Call where
  | handle (event : Event)
  | send (payload : Bytes)
  | sendFrame
  | listen
  | release
  | configureLoraTransmit (power : Int8) (bandwidth : Bandwidth) (factor : SpreadingFactor)
      (rate : CodingRate)
  | configureLoraReceive (bandwidth : Bandwidth) (factor : SpreadingFactor) (rate : CodingRate)
  | configureFskTransmit (power : Int8) (deviation datarate : UInt32)
  | setFrequency (hertz : UInt32)
  | setPublicNetwork (enable : Bool)
  | setHopping (hopping : Hopping)
  | invertTransmitIq (invert : Bool)
  | invertReceiveIq (invert : Bool)
  | setSymbolTimeout (symbols : UInt16)
  | setFrame (bytes : Bytes)
  deriving DecidableEq, Repr

inductive Reply where
  | done
  | response (response : Response)
  deriving DecidableEq, Repr

def CallRun.map {δ ε α γ : Type} (change : α → γ) (run : CallRun δ ε α) : CallRun δ ε γ :=
  ⟨run.result.map change, run.radio, run.bench⟩

def Transceiver.call {δ β ε : Type} [Driver δ β ε] (radio : Transceiver δ) (call : Call)
    (bench : Bench) : CallRun δ ε Reply :=
  let done (run : CallRun δ ε Unit) : CallRun δ ε Reply := run.map fun _ => .done
  let settings := radio.settings
  match call with
  | .handle event => (radio.handle event bench).map .response
  | .send payload => done (radio.send payload bench)
  | .sendFrame => done (radio.sendFrame bench)
  | .listen => done (radio.listen bench)
  | .release => ⟨.ok .done, radio.release, bench⟩
  | .configureLoraTransmit power bandwidth factor rate =>
      done (radio.configureLoraTransmit power bandwidth factor rate bench)
  | .configureLoraReceive bandwidth factor rate =>
      done (radio.configureLoraReceive bandwidth factor rate bench)
  | .configureFskTransmit power deviation datarate =>
      done (radio.configureFskTransmit power deviation datarate bench)
  | .setFrequency hertz => done (radio.perform (.setChannel hertz) bench)
  | .setPublicNetwork enable => done (radio.perform (.setPublicNetwork enable) bench)
  | .setHopping hopping => ⟨.ok .done, { radio with settings := { settings with hopping } }, bench⟩
  | .invertTransmitIq invert =>
      ⟨.ok .done, { radio with settings := { settings with invertTransmitIq := invert } }, bench⟩
  | .invertReceiveIq invert =>
      ⟨.ok .done, { radio with settings := { settings with invertReceiveIq := invert } }, bench⟩
  | .setSymbolTimeout symbols =>
      ⟨.ok .done, { radio with settings := { settings with symbolTimeout := symbols } }, bench⟩
  | .setFrame bytes => ⟨.ok .done, { radio with frame := bytes }, bench⟩

end RadioInterrupt
