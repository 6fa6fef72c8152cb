import RadioInterrupt.Dispatcher

/-!
Draining a queue into a dispatcher.

Every event that waits is dispatched in the order of its arrival, and so is every event that the
handlers post to the queue while it is drained.  A limit bounds the number of dispatches; a drain
that ends below its limit leaves an empty queue.
-/

namespace RadioInterrupt

structure DrainRun where
  outcomes : List (Event × Except Unconfigured Outcome)
  /-- How many events were dispatched, which is what a drain returns. -/
  count : Nat
  dispatcher : Dispatcher
  bench : Bench

namespace Dispatcher

/-- What the program around a drain does about a dispatch: it sees the event and the result, and may
log messages.  The results that it sees are the outcomes of the run.  It has no hand on the
dispatcher or the queue, so that handlers alone post while a queue is drained. -/
abbrev Announce := Event → Except Unconfigured Outcome → List Message

def drainUpTo (announce : Announce) : Nat → Dispatcher → Bench → DrainRun
  | 0, dispatcher, bench => ⟨[], 0, dispatcher, bench⟩
  | limit + 1, dispatcher, bench =>
      match bench.tryNext with
      | (none, bench) => ⟨[], 0, dispatcher, bench⟩
      | (some event, bench) =>
          let first := dispatcher.dispatch event bench
          let rest := drainUpTo announce limit first.dispatcher
            (first.bench.say (announce event first.result))
          { rest with
            outcomes := (event, first.result) :: rest.outcomes
            count := rest.count + 1 }

def drainLimit : Nat := UInt64.size

def drain (dispatcher : Dispatcher) (bench : Bench) (announce : Announce := fun _ _ => []) :
    DrainRun :=
  let run := drainUpTo announce drainLimit dispatcher bench
  if run.count = 0 then run
  else { run with bench := run.bench.say [.drained run.count] }

theorem count_drainUpTo (announce : Announce) (limit : Nat) (dispatcher : Dispatcher)
    (bench : Bench) :
    (drainUpTo announce limit dispatcher bench).count =
      (drainUpTo announce limit dispatcher bench).outcomes.length := by
  induction limit generalizing dispatcher bench with
  | zero => rfl
  | succ limit ih =>
      rw [drainUpTo]
      rcases bench.tryNext with ⟨_ | event, left⟩
      · rfl
      · exact congrArg (· + 1) (ih _ _)

end Dispatcher

end RadioInterrupt
