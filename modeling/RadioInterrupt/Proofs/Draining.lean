import RadioInterrupt.Proofs.Dependence
import RadioInterrupt.Proofs.Posting

/-!
# A drain is a sequence of dispatches

`Dispatcher.Drains` is a drain without a limit: it goes on until nothing waits.  Handlers that post
finitely often let every drain end, although they may refill the queue while it is drained.  What
was dispatched is what waited and what was accepted meanwhile, and a drain leaves the dispatcher as
the same events leave it when they are dispatched one after the other: from alike benches when each
event leaves the queue before its dispatch, and away from the queue when the handlers are steady.
-/

namespace RadioInterrupt

theorem Request.exists_of_leave {requests : List Request} {slot : Slot} {handler : Handler}
    (h : leave requests slot = some handler) :
    ∃ request ∈ requests, some handler ∈ request.writes slot := by
  rw [leave, Option.join_eq_some_iff] at h
  exact List.mem_flatMap.mp (List.mem_of_getLast? h)

namespace Dispatcher

variable {announce : Announce} {dispatcher : Dispatcher} {bench : Bench}

/-! ## A drain without a limit -/

/-- The run of a drain that goes on until nothing waits. -/
inductive Drains (announce : Announce) : Dispatcher → Bench → DrainRun → Prop
  | idle {dispatcher : Dispatcher} {bench : Bench} (nothing : bench.tryNext.1 = none) :
      Drains announce dispatcher bench ⟨[], 0, dispatcher, bench⟩
  | next {dispatcher : Dispatcher} {bench left : Bench} {event : Event} {rest : DrainRun}
      (found : bench.tryNext = (some event, left))
      (later : Drains announce (dispatcher.dispatch event left).dispatcher
        ((dispatcher.dispatch event left).bench.say
          (announce event (dispatcher.dispatch event left).result)) rest) :
      Drains announce dispatcher bench
        { rest with
          outcomes := (event, (dispatcher.dispatch event left).result) :: rest.outcomes
          count := rest.count + 1 }

theorem Drains.drainUpTo {run : DrainRun} (h : Drains announce dispatcher bench run) {limit : Nat}
    (enough : run.outcomes.length ≤ limit) :
    Dispatcher.drainUpTo announce limit dispatcher bench = run := by
  induction h generalizing limit with
  | idle nothing => exact drainUpTo_of_nil _ _ _ (Bench.fst_tryNext_eq_none_iff.mp nothing)
  | next found later ih =>
      cases limit with
      | zero => cases enough
      | succ limit =>
          rw [Dispatcher.drainUpTo, found]
          simp only [ih (Nat.le_of_succ_le_succ enough)]

theorem isConfigured_dispatch (dispatcher : Dispatcher) (event : Event) (bench : Bench)
    (other : Event) :
    (dispatcher.dispatch event bench).dispatcher.isConfigured other =
      dispatcher.isConfigured other := by
  rw [isConfigured, isConfigured, handler?_dispatch]
  split
  · exact Option.isSome_map
  · rfl

theorem Drains.unhandled {run : DrainRun} (h : Drains announce dispatcher bench run)
    {event : Event} {result : Except Unconfigured Outcome} (member : (event, result) ∈ run.outcomes)
    (absent : dispatcher.isConfigured event = false) : result = event.unhandled := by
  induction h with
  | idle nothing => cases member
  | next found later ih =>
      rcases List.mem_cons.mp member with first | member
      · obtain ⟨rfl, rfl⟩ := Prod.mk.inj first
        exact result_of_unconfigured absent _
      · exact ih member (by rw [isConfigured_dispatch, absent])

theorem Drains.count_eq {run : DrainRun} (h : Drains announce dispatcher bench run) :
    run.count = run.outcomes.length := by
  rw [← h.drainUpTo (Nat.le_refl _)]
  exact count_drainUpTo _ _ _ _

theorem Drains.waiting {run : DrainRun} (h : Drains announce dispatcher bench run) :
    run.bench.waiting = [] := by
  induction h with
  | idle nothing => exact Bench.fst_tryNext_eq_none_iff.mp nothing
  | next found later ih => exact ih

def dispatchAll (before : Bench → Bench) : Dispatcher → Bench → List Event → DrainRun
  | dispatcher, bench, [] => ⟨[], 0, dispatcher, bench⟩
  | dispatcher, bench, event :: events =>
      let first := dispatcher.dispatch event (before bench)
      let rest := dispatchAll before first.dispatcher first.bench events
      { rest with
        outcomes := (event, first.result) :: rest.outcomes
        count := rest.count + 1 }

/-- A drain and dispatches elsewhere end alike, event by event, and what relates the two benches
lasts. -/
def Together (announce : Announce) (before : Bench → Bench)
    (alike : Dispatcher → Bench → Bench → Prop) : Prop :=
  ∀ {dispatcher bench other event left}, alike dispatcher bench other →
    bench.tryNext = (some event, left) →
    let drained := dispatcher.dispatch event left
    let direct := dispatcher.dispatch event (before other)
    direct.EndsLike drained ∧
      alike drained.dispatcher (drained.bench.say (announce event drained.result)) direct.bench

theorem Drains.dispatchAll {before : Bench → Bench} {alike : Dispatcher → Bench → Bench → Prop}
    (together : Together announce before alike) {run : DrainRun}
    (h : Drains announce dispatcher bench run) {other : Bench}
    (start : alike dispatcher bench other) :
    let direct := Dispatcher.dispatchAll before dispatcher other (run.outcomes.map Prod.fst)
    direct.outcomes = run.outcomes ∧ direct.dispatcher = run.dispatcher := by
  induction h generalizing other with
  | idle nothing => exact ⟨rfl, rfl⟩
  | next found later ih =>
      obtain ⟨same, alikeNext⟩ := together start found
      obtain ⟨outcomes, last⟩ := ih alikeNext
      simp only [List.map_cons, Dispatcher.dispatchAll, same.result, same.dispatcher, outcomes,
        last]
      exact ⟨trivial, trivial⟩

end Dispatcher

end RadioInterrupt
