import RadioInterrupt.Dispatcher
import RadioInterrupt.Text.Quoted

/-!
Radio drivers and how a dispatcher is set up with one.

A driver names the handlers that it wants stored, brings up its chip, and performs commands.
`Dispatcher.install` is all or nothing: the handlers are in place only when the driver has been
brought up and has gone to sleep.
-/

namespace RadioInterrupt

class Describe (ε : Type) where
  describe : ε → String

export Describe (describe)

instance : Describe String where
  describe := Text.quoted

instance : Describe ChipError where
  describe
    | .noResponse => "NoResponse"
    | .payloadTooLarge size limit =>
        "PayloadTooLarge \x7b size: " ++ toString size ++ ", max: " ++ toString limit ++ " \x7d"

def driverFailure {ε : Type} [Describe ε] (error : ε) : String :=
  "radio driver error: " ++ describe error

/-- A driver `δ` that is brought up on a board `β` and fails with `ε`. -/
class Driver (δ : Type) (β ε : outParam Type) where
  /-- The handlers that the driver wants stored while it is brought up, in order. -/
  requests : δ → β → List Request
  bringUp : δ → β → List RequestAnswer → Bench → Except ε Unit × δ × Bench
  perform : δ → Command → Bench → Except ε Unit × δ × Bench

structure InstallRun (δ ε : Type) where
  result : Except ε Unit
  dispatcher : Dispatcher
  driver : δ
  bench : Bench

namespace Dispatcher

def cleared (dispatcher : Dispatcher) : Dispatcher :=
  { dispatcher with inbox := dispatcher.inbox.clear, toRegistry := .empty }

def installed (registry : Registry) : List Message :=
  (if registry.lines.isEmpty then [.noLineHandlers] else []) ++
    [.initialized registry.lines.configured registry.timers.configured]

/-- Clears the dispatcher, brings up the driver, and puts it to sleep.  The driver's requests are
performed on empty tables, which are installed when everything has succeeded. -/
def install {δ β ε : Type} [Driver δ β ε] (dispatcher : Dispatcher) (driver : δ) (board : β)
    (bench : Bench) : InstallRun δ ε :=
  let bench := bench.say (if dispatcher.inbox.buffer.isSome then [.bufferReleased] else [])
  let (answers, registry, messages) := Registry.empty.performAll (Driver.requests driver board)
  match Driver.bringUp driver board answers (bench.say messages) with
  | (.error error, driver, bench) =>
      ⟨.error error, dispatcher.cleared, driver, bench.say [.bringUpFailed]⟩
  | (.ok _, driver, bench) =>
      match Driver.perform driver .sleep bench with
      | (.error error, driver, bench) =>
          ⟨.error error, dispatcher.cleared, driver, bench.say [.sleepFailed]⟩
      | (.ok _, driver, bench) =>
          ⟨.ok (), { dispatcher.cleared with toRegistry := registry }, driver,
            bench.say (installed registry)⟩

end Dispatcher

end RadioInterrupt
