import RadioInterrupt.Drain
import RadioInterrupt.Script
import RadioInterrupt.Session.Storage
import RadioInterrupt.SimulatedRadio

/-!
Sessions with one dispatcher.

A session is a sequence of steps on a dispatcher, its buffers, the watches taken of its outcome, a
simulated radio and a queue.  `Dispatch.step` performs one step; the only step that ends a session
is the request for a queue beyond the largest capacity.
-/

namespace RadioInterrupt.Session

structure Dispatch where
  dispatcher : Dispatcher := {}
  bench : Bench := {}
  radio : Option SimulatedRadio := none
  radiosMade : Nat := 0
  watches : Nat := 0
  spare : List Window := []

namespace Dispatch

def ofRegion (region : Bytes) (lengths : List Nat) : Dispatch where
  dispatcher := { inbox := { region } }
  spare := Window.cut 0 lengths

inductive Step where
  | register (request : Request)
  | install (driver : ScriptedDriver)
  | dispatch (event : Event)
  | isConfigured (event : Event)
  | setBuffer (destination : Destination)
  | takeBuffer
  | info
  | counters
  | resetCounters
  | watch
  | readWatches
  | newRadio (responsive : Bool)
  | installRadio (timers : Bool)
  | command (command : Command)
  | latch (cause : Cause)
  | chip
  | newQueue (capacity : Nat)
  | cloneSender
  | dropSender (sender : Nat)
  | dropQueue
  | post (sender : Nat) (event : Event)
  | dropped
  | tryNext
  /-- Poll once, and if nothing is there post the events and poll again. -/
  | poll (between : Option (List Event))
  | drain

inductive Polled where
  | poll (found : Poll Event)
  | post (answer : PostAnswer)
  deriving DecidableEq, Repr

inductive Answer where
  | nothing
  | done
  | registered (answer : RequestAnswer)
  | installFailed (message : String)
  | dispatched (result : Except Unconfigured Outcome)
  | flag (answer : Bool)
  | buffer (bytes : Option Bytes)
  | info (info : FrameInfo)
  | counters (counters : Counters)
  | number (value : Nat)
  | outcomes (seen : List Outcome)
  | chipFailed (error : ChipError)
  | chip (chip : Chip)
  | posted (answer : PostAnswer)
  | event (taken : Option Event)
  | polled (found : List Polled)
  | drained (outcomes : List (Event × Except Unconfigured Outcome))

structure CapacityExceeded where
  capacity : Nat
  deriving DecidableEq, Repr

def chip? (session : Dispatch) : Option Chip :=
  session.radio.map fun radio => session.bench.chips radio.chip

def queue? (session : Dispatch) : Option PostQueue :=
  session.bench.queue.filter (·.receiving)

def quiet (session : Dispatch) : Dispatch :=
  { session with bench := { session.bench with notes := [], log := [] } }

def installWith {δ β ε : Type} [Driver δ β ε] [Describe ε] (session : Dispatch) (driver : δ)
    (board : β) : Answer × Dispatch :=
  let run := session.dispatcher.install driver board session.bench
  let answer := match run.result with
    | .ok _ => .done
    | .error error => .installFailed (driverFailure error)
  (answer, { session with dispatcher := run.dispatcher, bench := run.bench })

def changeQueue (session : Dispatch) (change : PostQueue → PostQueue) : Dispatch :=
  { session with bench := { session.bench with queue := session.bench.queue.map change } }

def postAll (bench : Bench) : List Event → List Polled × Bench
  | [] => ([], bench)
  | event :: events =>
      let (answer, bench) := bench.post 0 event
      let (answers, bench) := postAll bench events
      (.post answer :: answers, bench)

def pollOnce (bench : Bench) : Poll Event × Bench :=
  match bench.queue with
  | none => (.ready none, bench)
  | some queue =>
      let (found, queue) := queue.poll
      (found, { bench with queue := some queue })

def pollBetween (bench : Bench) (between : Option (List Event)) : List Polled × Bench :=
  match pollOnce bench, between with
  | (.pending, bench), some events =>
      let (posts, bench) := postAll bench events
      let (found, bench) := pollOnce bench
      (.poll .pending :: posts ++ [.poll found], bench)
  | (found, bench), _ => ([.poll found], bench)

def performCommand (session : Dispatch) (command : Command) : Answer × Dispatch :=
  match session.radio with
  | none => (.nothing, session)
  | some radio =>
      match radio.perform command session.bench with
      | (.ok _, bench) => (.done, { session with bench })
      | (.error error, bench) => (.chipFailed error, { session with bench })

def act (session : Dispatch) : Step → Except CapacityExceeded (Answer × Dispatch)
  | .register request =>
      let (answer, dispatcher, bench) := session.dispatcher.register request session.bench
      .ok (.registered answer, { session with dispatcher, bench })
  | .install driver => .ok (session.installWith driver ())
  | .dispatch event =>
      let run := session.dispatcher.dispatch event session.bench
      .ok (.dispatched run.result,
        { session with dispatcher := run.dispatcher, bench := run.bench })
  | .isConfigured event => .ok (.flag (session.dispatcher.isConfigured event), session)
  | .setBuffer destination =>
      let (buffer, spare) := destination.take session.spare
      .ok (.buffer session.dispatcher.inbox.registered,
        { session with
          dispatcher := buffer.elim session.dispatcher session.dispatcher.setBuffer
          spare })
  | .takeBuffer =>
      .ok (.buffer session.dispatcher.inbox.registered,
        { session with dispatcher := session.dispatcher.takeBuffer })
  | .info => .ok (.info session.dispatcher.info, session)
  | .counters => .ok (.counters session.dispatcher.counters, session)
  | .resetCounters =>
      .ok (.nothing, { session with dispatcher := session.dispatcher.resetCounters })
  | .watch => .ok (.number (session.watches + 1), { session with watches := session.watches + 1 })
  | .readWatches =>
      .ok (.outcomes (List.replicate session.watches session.dispatcher.outcome), session)
  | .newRadio responsive =>
      .ok (.nothing,
        { session with
          radio := some { chip := session.radiosMade, responsive }
          radiosMade := session.radiosMade + 1 })
  | .installRadio timers =>
      match session.radio with
      | none => .ok (.nothing, session)
      | some radio => .ok (session.installWith radio { timers })
  | .command command => .ok (session.performCommand command)
  | .latch cause =>
      match session.radio with
      | none => .ok (.nothing, session)
      | some radio =>
          let chip := session.bench.chips radio.chip
          .ok (.nothing,
            { session with bench := session.bench.setChip radio.chip (chip.latch cause) })
  | .chip => .ok (session.chip?.elim .nothing .chip, session)
  | .newQueue capacity =>
      match PostQueue.make? capacity with
      | none => .error ⟨capacity⟩
      | some queue =>
          .ok (.nothing, { session with bench := { session.bench with queue := some queue } })
  | .cloneSender =>
      .ok (.number (session.bench.queue.elim 0 fun queue => queue.senders.length),
        session.changeQueue PostQueue.cloneSender)
  | .dropSender sender => .ok (.nothing, session.changeQueue (PostQueue.dropSender · sender))
  | .dropQueue => .ok (.nothing, session.changeQueue PostQueue.close)
  | .post sender event =>
      let (answer, bench) := session.bench.post sender event
      .ok (.posted answer, { session with bench })
  | .dropped =>
      .ok (.number (session.bench.queue.elim 0 fun queue => queue.dropped.toNat), session)
  | .tryNext =>
      let (event, bench) := session.bench.tryNext
      .ok (.event event, { session with bench })
  | .poll between =>
      let (found, bench) := pollBetween session.bench between
      .ok (.polled found, { session with bench })
  | .drain =>
      let run := session.dispatcher.drain session.bench
      .ok (.drained run.outcomes,
        { session with dispatcher := run.dispatcher, bench := run.bench })

/-- Performs a step; the notes and the log afterwards are those of the step. -/
def step (session : Dispatch) (step : Step) : Except CapacityExceeded (Answer × Dispatch) :=
  session.quiet.act step

end Dispatch

end RadioInterrupt.Session
