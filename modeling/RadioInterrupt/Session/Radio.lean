import RadioInterrupt.Script
import RadioInterrupt.SimulatedRadio
import RadioInterrupt.Transceiver

/-!
Sessions with one transceiver over any driver.
-/

namespace RadioInterrupt.Session

structure Radio (δ : Type) where
  radio : Transceiver δ
  bench : Bench := {}

namespace Radio

inductive Step (δ : Type) where
  | call (call : Call)
  | pushFrame (bytes : Bytes)
  | truncateFrame (length : Nat)
  | settings
  | counters
  | chip (number : Nat)
  | latch (number : Nat) (cause : Cause)
  /-- Changes the driver behind the transceiver's back. -/
  | adjust (change : δ → δ)

inductive Answer (ε : Type) where
  | nothing
  | reply (result : Except (RadioError ε) Reply)
  | settings (settings : Settings) (verdict : Except SettingsError Unit)
  | counters (counters : Counters)
  | chip (chip : Chip)

variable {δ β ε : Type}

def quiet (session : Radio δ) : Radio δ :=
  { session with bench := { session.bench with notes := [], log := [] } }

def makeCall [Driver δ β ε] (session : Radio δ) (call : Call) : Answer ε × Radio δ :=
  let run := session.radio.call call session.bench
  (.reply run.result, ⟨run.radio, run.bench⟩)

def step [Driver δ β ε] (session : Radio δ) (step : Step δ) : Answer ε × Radio δ :=
  let session := session.quiet
  let radio := session.radio
  match step with
  | .call call => session.makeCall call
  | .pushFrame bytes => session.makeCall (.setFrame (radio.frame ++ bytes))
  | .truncateFrame length => session.makeCall (.setFrame (radio.frame.take length))
  | .settings => (.settings radio.settings radio.settings.validate, session)
  | .counters => (.counters radio.dispatcher.counters, session)
  | .chip number => (.chip (session.bench.chips number), session)
  | .latch number cause =>
      (.nothing,
        { session with
          bench := session.bench.setChip number ((session.bench.chips number).latch cause) })
  | .adjust change =>
      (.nothing, { session with radio := { radio with driver := change radio.driver } })

end Radio

end RadioInterrupt.Session
