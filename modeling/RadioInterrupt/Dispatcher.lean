import RadioInterrupt.Recorder
import RadioInterrupt.Registry

/-!
The dispatcher: from an event to the outcome that its handler reports.

A dispatcher is a recorder of reports with tables of handlers.  A dispatch resets the outcome to
`busy`, runs the handler that the event's slot holds, and ends with the outcome that the handler
reported.  A line without a handler is an error, and a timer without a handler is ignored.
-/

namespace RadioInterrupt

structure Unconfigured where
  event : Event
  slot : Nat
  deriving DecidableEq, Repr

def Unconfigured.message (fault : Unconfigured) : String :=
  "handler not configured for " ++ fault.event.label ++ " (slot " ++ toString fault.slot ++ ")"

structure Dispatcher extends Recorder, Registry

structure DispatchRun where
  result : Except Unconfigured Outcome
  dispatcher : Dispatcher
  bench : Bench

namespace Dispatcher

def isConfigured (dispatcher : Dispatcher) (event : Event) : Bool :=
  (dispatcher.handler? event.slot).isSome

def setBuffer (dispatcher : Dispatcher) (buffer : Buffer) : Dispatcher :=
  { dispatcher with inbox := dispatcher.inbox.set buffer }

def takeBuffer (dispatcher : Dispatcher) : Dispatcher :=
  { dispatcher with inbox := dispatcher.inbox.clear }

def resetCounters (dispatcher : Dispatcher) : Dispatcher :=
  { dispatcher with counters := {} }

def register (dispatcher : Dispatcher) (request : Request) (bench : Bench) :
    RequestAnswer × Dispatcher × Bench :=
  let (answer, registry, messages) := dispatcher.toRegistry.perform request
  (answer, { dispatcher with toRegistry := registry }, bench.say messages)

def begin (dispatcher : Dispatcher) : Dispatcher :=
  { dispatcher with
    outcome := .busy
    counters := { dispatcher.counters with dispatched := dispatcher.counters.dispatched + 1 } }

def endUnhandled (dispatcher : Dispatcher) (event : Event) (bench : Bench) : DispatchRun :=
  let counters := dispatcher.counters
  match event.slot with
  | .line index =>
      { result := .error ⟨event, index⟩
        dispatcher := { dispatcher with
          counters := { counters with unconfigured := counters.unconfigured + 1 } }
        bench := bench.say [.lineUnconfigured event index] }
  | .timer _ =>
      { result := .ok .busy
        dispatcher := { dispatcher with
          counters := { counters with timerIgnored := counters.timerIgnored + 1 }.record .busy }
        bench := bench.say [.timerUnconfigured event] }

/-- Ends a dispatch after its handler has run and left `recorder`. -/
def endHandled (dispatcher : Dispatcher) (event : Event) (recorder : Recorder) (bench : Bench) :
    DispatchRun where
  result := .ok recorder.outcome
  dispatcher :=
    { toRecorder := { recorder with counters := recorder.counters.record recorder.outcome }
      toRegistry := dispatcher.toRegistry.advance event.slot }
  bench := bench.say [.dispatched event recorder.outcome]

def dispatch (dispatcher : Dispatcher) (event : Event) (bench : Bench) : DispatchRun :=
  let dispatcher := dispatcher.begin
  match dispatcher.handler? event.slot with
  | none => dispatcher.endUnhandled event bench
  | some handler =>
      let (routine, bench) := handler.start bench
      let (recorder, bench) := routine.run dispatcher.toRecorder bench
      dispatcher.endHandled event recorder bench

@[simp] theorem toRegistry_begin (dispatcher : Dispatcher) :
    dispatcher.begin.toRegistry = dispatcher.toRegistry := rfl

@[simp] theorem outcome_begin (dispatcher : Dispatcher) : dispatcher.begin.outcome = .busy := rfl

@[simp] theorem inbox_begin (dispatcher : Dispatcher) :
    dispatcher.begin.inbox = dispatcher.inbox := rfl

@[simp] theorem info_begin (dispatcher : Dispatcher) :
    dispatcher.begin.info = dispatcher.info := rfl

theorem dispatch_of_none {dispatcher : Dispatcher} {event : Event}
    (h : dispatcher.handler? event.slot = none) (bench : Bench) :
    dispatcher.dispatch event bench = dispatcher.begin.endUnhandled event bench := by
  simp [dispatch, h]

theorem dispatch_of_some {dispatcher : Dispatcher} {event : Event} {handler : Handler}
    (h : dispatcher.handler? event.slot = some handler) (bench : Bench) :
    dispatcher.dispatch event bench =
      let started := handler.start bench
      let ran := started.1.run dispatcher.begin.toRecorder started.2
      dispatcher.begin.endHandled event ran.1 ran.2 := by
  simp [dispatch, h]

end Dispatcher

end RadioInterrupt
