/-!
A bounded channel with any number of senders and one receiver.

This is what a queue of events is built on: a first-in first-out buffer for a number of items.  It
takes an item exactly when its receiver is there and fewer items than its capacity wait, and a
channel whose receiver is gone refuses with `closed`, whether or not it was full.  It tells an empty
buffer that can still get an item from one that cannot, because no sender is left.

The theorems are the laws of the channel; what is proved about queues rests on them.
-/

namespace RadioInterrupt

/-- What one poll for the next item finds: nothing yet, an item, or the end of the items. -/
inductive Poll (α : Type) where
  | pending
  | ready (item : Option α)
  deriving DecidableEq, Repr

structure Channel (α : Type) where
  capacity : Nat
  waiting : List α := []
  receiving : Bool := true
  /-- For each sender made so far, whether it is still there. -/
  senders : List Bool := [true]
  deriving DecidableEq, Repr

namespace Channel

inductive SendFault (α : Type) where
  | full (item : α)
  | closed (item : α)
  deriving DecidableEq, Repr

inductive ReceiveFault where
  | empty
  | disconnected
  deriving DecidableEq, Repr

variable {α : Type}

/-- No channel can be made for more items than this. -/
def capacityLimit : Nat := UInt64.size / 8 - 1

def make? (capacity : Nat) : Option (Channel α) :=
  if 0 < capacity ∧ capacity ≤ capacityLimit then some { capacity } else none

def isLive (channel : Channel α) (sender : Nat) : Bool :=
  channel.senders.getD sender false

def hasSender (channel : Channel α) : Bool :=
  channel.senders.any id

def cloneSender (channel : Channel α) : Channel α :=
  { channel with senders := channel.senders ++ [true] }

def dropSender (channel : Channel α) (sender : Nat) : Channel α :=
  { channel with senders := channel.senders.set sender false }

def close (channel : Channel α) : Channel α :=
  { channel with receiving := false, waiting := [] }

def trySend (channel : Channel α) (item : α) : Except (SendFault α) Unit × Channel α :=
  if channel.receiving = false then (.error (.closed item), channel)
  else if channel.capacity ≤ channel.waiting.length then (.error (.full item), channel)
  else (.ok (), { channel with waiting := channel.waiting ++ [item] })

def tryReceive (channel : Channel α) : Except ReceiveFault α × Channel α :=
  match channel.waiting with
  | item :: rest => (.ok item, { channel with waiting := rest })
  | [] => (.error (if channel.hasSender then .empty else .disconnected), channel)

def poll (channel : Channel α) : Poll α × Channel α :=
  match channel.waiting with
  | item :: rest => (.ready (some item), { channel with waiting := rest })
  | [] => (if channel.hasSender then .pending else .ready none, channel)

/-! ## Laws -/

theorem make?_eq_some_iff {capacity : Nat} {channel : Channel α} :
    make? capacity = some channel ↔
      (0 < capacity ∧ capacity ≤ capacityLimit) ∧ { capacity } = channel := by
  rw [make?]
  split
  · next fits => rw [Option.some.injEq, and_iff_right fits]
  · next beyond => exact ⟨nofun, fun made => absurd made.1 beyond⟩

section

variable {channel : Channel α} {item : α} {rest : List α}

theorem trySend_of_closed (h : channel.receiving = false) (item : α) :
    channel.trySend item = (.error (.closed item), channel) := by
  simp [trySend, h]

theorem trySend_of_full (alive : channel.receiving = true)
    (h : channel.capacity ≤ channel.waiting.length) (item : α) :
    channel.trySend item = (.error (.full item), channel) := by
  simp [trySend, alive, h]

theorem trySend_of_room (alive : channel.receiving = true)
    (h : channel.waiting.length < channel.capacity) (item : α) :
    channel.trySend item = (.ok (), { channel with waiting := channel.waiting ++ [item] }) := by
  simp [trySend, alive, Nat.not_le.mpr h]

theorem tryReceive_of_cons (h : channel.waiting = item :: rest) :
    channel.tryReceive = (.ok item, { channel with waiting := rest }) := by
  simp [tryReceive, h]

theorem tryReceive_of_nil (h : channel.waiting = []) :
    channel.tryReceive =
      (.error (if channel.hasSender then .empty else .disconnected), channel) := by
  simp [tryReceive, h]

theorem poll_of_cons (h : channel.waiting = item :: rest) :
    channel.poll = (.ready (some item), { channel with waiting := rest }) := by
  simp [poll, h]

theorem poll_of_nil (h : channel.waiting = []) :
    channel.poll = (if channel.hasSender then .pending else .ready none, channel) := by
  simp [poll, h]

end

theorem isLive_cloneSender (channel : Channel α) (sender : Nat) :
    channel.cloneSender.isLive sender = true ↔
      channel.isLive sender = true ∨ sender = channel.senders.length := by
  simp only [isLive, cloneSender, List.getD_eq_getElem?_getD, List.getElem?_append]
  by_cases below : sender < channel.senders.length
  · simp [below, Nat.ne_of_lt below]
  · rw [if_neg below, List.getElem?_eq_none (Nat.le_of_not_lt below)]
    simp only [Option.getD_none, Bool.false_eq_true, false_or]
    cases more : sender - channel.senders.length with
    | zero => simp [Nat.le_antisymm (Nat.sub_eq_zero_iff_le.mp more) (Nat.le_of_not_lt below)]
    | succ more => simp; omega

theorem isLive_dropSender (channel : Channel α) (gone sender : Nat) :
    (channel.dropSender gone).isLive sender = true ↔
      channel.isLive sender = true ∧ sender ≠ gone := by
  simp only [isLive, dropSender, List.getD_eq_getElem?_getD, List.getElem?_set]
  by_cases same : gone = sender
  · subst same
    by_cases made : gone < channel.senders.length <;> simp [made]
  · simp [same, Ne.symm same]

theorem hasSender_iff {channel : Channel α} :
    channel.hasSender = true ↔ ∃ sender, channel.isLive sender = true := by
  simp only [hasSender, isLive, List.any_eq_true, id, List.getD_eq_getElem?_getD]
  constructor
  · rintro ⟨live, member, rfl⟩
    obtain ⟨sender, found⟩ := List.getElem?_of_mem member
    exact ⟨sender, by rw [found]; rfl⟩
  · rintro ⟨sender, live⟩
    cases found : channel.senders[sender]? with
    | none =>
        rw [found] at live
        cases live
    | some state =>
        rw [found] at live
        exact ⟨state, List.mem_of_getElem? found, live⟩

end Channel

end RadioInterrupt
