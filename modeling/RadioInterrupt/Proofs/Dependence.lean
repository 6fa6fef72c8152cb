import RadioInterrupt.Proofs.Stored
import RadioInterrupt.Proofs.Traffic

/-!
# What a dispatch depends on

The routine that a handler starts depends on the chips, and what its run leaves depends on the queue
besides, through the answers to its posts.  Notes and messages on the bench are never read, so that
alike benches are as good as one (`Bench.Alike`).  `Handler.Steady` says of a handler that the
answers to its posts make no difference to what it reports; handlers of scripts and of chips are of
that kind.
-/

namespace RadioInterrupt

namespace Bench

structure Alike (bench other : Bench) : Prop where
  chips : other.chips = bench.chips
  queue : other.queue = bench.queue

theorem Alike.tryNext {bench other : Bench} (h : bench.Alike other) :
    other.tryNext.1 = bench.tryNext.1 ∧ bench.tryNext.2.Alike other.tryNext.2 := by
  rw [tryNext_eq bench, tryNext_eq other, h.queue]
  exact ⟨rfl, h.chips, rfl⟩

theorem Alike.post {bench other : Bench} (h : bench.Alike other) (sender : Nat) (event : Event) :
    (other.post sender event).1 = (bench.post sender event).1 ∧
      (bench.post sender event).2.Alike (other.post sender event).2 := by
  refine ⟨?_, ?_, ?_⟩
  · rw [answer_post_eq, answer_post_eq, h.queue]
  · rw [chips_post, chips_post, h.chips]
  · rw [queue_post, queue_post, h.queue]

theorem chips_setChip_congr {bench other : Bench} (h : other.chips = bench.chips) (number : Nat)
    (chip : Chip) : (other.setChip number chip).chips = (bench.setChip number chip).chips := by
  simp only [setChip, h]

end Bench

namespace Routine

variable {σ : Type} [ReportSink σ]

theorem chips_run (routine : Routine) (sink : σ) (bench : Bench) :
    (routine.run sink bench).2.chips = bench.chips := by
  induction routine generalizing sink bench with
  | done => rfl
  | report made next ih => exact ih _ _
  | look next ih => exact ih _ _ _
  | post sender event next ih =>
      rw [run_post, ih, Bench.chips_post]
  | note entry next ih => exact ih _ _

end Routine

namespace Handler

/-- What the runs of the handler leave of a recorder does not depend on the answers to its posts. -/
def Steady (handler : Handler) : Prop :=
  ∀ (runs : Nat) (recorder : Recorder) (bench other : Bench), other.chips = bench.chips →
    ((handler.after runs).run recorder other).1 = ((handler.after runs).run recorder bench).1

theorem Steady.advance {handler : Handler} (h : handler.Steady) : handler.advance.Steady := by
  intro runs
  rw [after_advance]
  exact h (runs + 1)

end Handler

namespace Script

theorem run_perform {σ : Type} [ReportSink σ] (actions : List Action) (sink : σ)
    (bench other : Bench) :
    ((perform actions).run sink other).1 = ((perform actions).run sink bench).1 := by
  induction actions generalizing sink bench other with
  | nil => rfl
  | cons action actions ih => cases action <;> exact ih _ _ _

theorem steady (script : Script) (past : Nat) : (script.handler.after past).Steady :=
  fun _ _ _ _ _ => run_perform _ _ _ _

end Script

structure DispatchRun.EndsLike (run other : DispatchRun) : Prop where
  result : run.result = other.result
  dispatcher : run.dispatcher = other.dispatcher

namespace Dispatcher

def Steady (dispatcher : Dispatcher) : Prop :=
  ∀ slot handler, dispatcher.handler? slot = some handler → handler.Steady

variable {dispatcher : Dispatcher} {bench other : Bench}

theorem dispatch_endsLike {event : Event}
    (same : ∀ handler, dispatcher.handler? event.slot = some handler →
      (handler.run dispatcher.begin.toRecorder other).1 =
        (handler.run dispatcher.begin.toRecorder bench).1) :
    (dispatcher.dispatch event other).EndsLike (dispatcher.dispatch event bench) := by
  cases held : dispatcher.handler? event.slot with
  | none =>
      rw [dispatch_of_none held, dispatch_of_none held, endUnhandled, endUnhandled]
      cases event.slot <;> exact ⟨rfl, rfl⟩
  | some handler =>
      rw [dispatch_of_handler held, dispatch_of_handler held, same handler held]
      exact ⟨rfl, rfl⟩

theorem Steady.dispatch (h : dispatcher.Steady) (same : other.chips = bench.chips)
    (event : Event) :
    (dispatcher.dispatch event other).EndsLike (dispatcher.dispatch event bench) ∧
      (dispatcher.dispatch event bench).dispatcher.Steady := by
  constructor
  · refine dispatch_endsLike fun handler held => ?_
    have steady := h event.slot handler held 0 dispatcher.begin.toRecorder bench other same
    rwa [Handler.after_zero] at steady
  · intro slot handler found
    rw [handler?_dispatch] at found
    split at found
    · obtain ⟨earlier, held, rfl⟩ := Option.map_eq_some_iff.mp found
      exact (h slot earlier held).advance
    · exact h slot handler found

end Dispatcher

end RadioInterrupt
