import Mathlib.Data.List.Basic
import RadioInterrupt.PostQueue

/-!
# Which senders of a queue are there

Senders are numbered in the order in which they are made, and a queue begins with the first of them.
`SenderChange.Lives` reads off a past which of them are there: a sender is there if it was made and
has not been dropped since.  A queue that has gone through a past agrees with it (`Numbered`), and
`PostQueue.Numbered.change` is one step of this.
-/

namespace RadioInterrupt

inductive SenderChange where
  | cloned
  | dropped (sender : Nat)
  deriving DecidableEq, Repr

namespace SenderChange

def made (past : List SenderChange) : Nat :=
  past.count .cloned + 1

/-- The sender is the first one or was made by a clone, and has not been dropped since. -/
def Lives (past : List SenderChange) (sender : Nat) : Prop :=
  (sender = 0 ∧ .dropped sender ∉ past) ∨
    ∃ before after, past = before ++ .cloned :: after ∧ sender = made before ∧
      .dropped sender ∉ after

variable {past : List SenderChange} {sender : Nat}

theorem concat_eq_iff {before after : List SenderChange} {last : SenderChange} :
    past ++ [last] = before ++ .cloned :: after ↔
      (last = .cloned ∧ before = past ∧ after = []) ∨
        ∃ between, after = between ++ [last] ∧ past = before ++ .cloned :: between := by
  constructor
  · intro whole
    rcases after.eq_nil_or_concat with rfl | ⟨between, final, rfl⟩
    · obtain ⟨rfl, same⟩ := List.append_inj' whole rfl
      exact .inl ⟨List.head_eq_of_cons_eq same, rfl, rfl⟩
    · rw [List.concat_eq_append, ← List.cons_append, ← List.append_assoc] at whole
      obtain ⟨same, final⟩ := List.append_inj' whole rfl
      obtain rfl := List.head_eq_of_cons_eq final
      exact .inr ⟨between, List.concat_eq_append, same⟩
  · rintro (⟨rfl, rfl, rfl⟩ | ⟨between, rfl, rfl⟩)
    · rfl
    · rw [List.append_assoc, List.cons_append]

theorem lives_concat_cloned :
    Lives (past ++ [.cloned]) sender ↔ Lives past sender ∨ sender = made past := by
  simp only [Lives, concat_eq_iff, List.mem_append, List.mem_singleton, reduceCtorEq, or_false]
  constructor
  · rintro (first | ⟨before, after, ⟨-, rfl, rfl⟩ | ⟨between, rfl, rfl⟩, rfl, kept⟩)
    · exact .inl (.inl first)
    · exact .inr rfl
    · exact .inl (.inr ⟨before, between, rfl, rfl, fun gone => kept (by simp [gone])⟩)
  · rintro ((first | ⟨before, after, rfl, rfl, kept⟩) | rfl)
    · exact .inl first
    · exact .inr ⟨before, _, .inr ⟨after, rfl, rfl⟩, rfl, by simpa using kept⟩
    · exact .inr ⟨past, [], .inl ⟨trivial, rfl, rfl⟩, rfl, List.not_mem_nil⟩

theorem lives_concat_dropped {gone : Nat} :
    Lives (past ++ [.dropped gone]) sender ↔ Lives past sender ∧ sender ≠ gone := by
  simp only [Lives, concat_eq_iff, List.mem_append, List.mem_singleton, reduceCtorEq, false_and,
    false_or, dropped.injEq, not_or]
  constructor
  · rintro (⟨rfl, kept, other⟩ | ⟨before, _, ⟨between, rfl, rfl⟩, rfl, kept⟩)
    · exact ⟨.inl ⟨rfl, kept⟩, other⟩
    · simp only [List.mem_append, List.mem_singleton, dropped.injEq, not_or] at kept
      exact ⟨.inr ⟨before, between, rfl, rfl, kept.1⟩, kept.2⟩
  · rintro ⟨⟨rfl, kept⟩ | ⟨before, after, rfl, rfl, kept⟩, other⟩
    · exact .inl ⟨rfl, kept, other⟩
    · exact .inr ⟨before, _, ⟨after, rfl, rfl⟩, rfl, by simp [kept, other]⟩

end SenderChange

open SenderChange (Lives made)

namespace PostQueue

def change (queue : PostQueue) : SenderChange → PostQueue
  | .cloned => queue.cloneSender
  | .dropped sender => queue.dropSender sender

/-- The senders of the queue are those that a past has left. -/
structure Numbered (queue : PostQueue) (past : List SenderChange) : Prop where
  length : queue.senders.length = made past
  live : ∀ sender, queue.isLive sender = true ↔ Lives past sender

theorem Numbered.of_make? {capacity : Nat} {queue : PostQueue} (h : make? capacity = some queue) :
    queue.Numbered [] := by
  obtain ⟨-, rfl⟩ := make?_eq_some_iff.mp h
  refine ⟨rfl, fun sender => ?_⟩
  cases sender <;> simp [Lives, Channel.isLive]

theorem Numbered.change {queue : PostQueue} {past : List SenderChange} (h : queue.Numbered past)
    (change : SenderChange) : (queue.change change).Numbered (past ++ [change]) := by
  cases change with
  | cloned =>
      constructor
      · change (queue.senders ++ [true]).length = _
        rw [List.length_append, h.length, made, made, List.count_append]
        rfl
      · intro sender
        rw [SenderChange.lives_concat_cloned, ← h.live, ← h.length]
        exact queue.isLive_cloneSender sender
  | dropped gone =>
      constructor
      · change (queue.senders.set gone false).length = _
        rw [List.length_set, h.length, made, made, List.count_append]
        rfl
      · intro sender
        rw [SenderChange.lives_concat_dropped, ← h.live]
        exact queue.isLive_dropSender gone sender

theorem Numbered.congr {queue other : PostQueue} {past : List SenderChange}
    (h : queue.Numbered past) (same : other.senders = queue.senders) : other.Numbered past :=
  ⟨same ▸ h.length, fun sender => by rw [← h.live, Channel.isLive, Channel.isLive, same]⟩

end PostQueue

end RadioInterrupt
