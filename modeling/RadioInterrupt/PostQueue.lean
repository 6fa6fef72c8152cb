import RadioInterrupt.Channel
import RadioInterrupt.Event

/-!
A bounded queue of events, posted by senders and taken by one receiver.

A queue is a channel for at least one event, and a count of the posts that the channel has refused.
The count is shared by both ends, so that it outlives the receiver.
-/

namespace RadioInterrupt

inductive Refusal where
  | full (event : Event)
  | closed (event : Event)
  deriving DecidableEq, Repr

namespace Refusal

def ofFault : Channel.SendFault Event → Refusal
  | .full event => .full event
  | .closed event => .closed event

def message : Refusal → String
  | .full event => "irq queue full, dropped " ++ event.label
  | .closed event => "irq queue closed, dropped " ++ event.label

end Refusal

structure PostQueue extends Channel Event where
  dropped : UInt64 := 0
  deriving DecidableEq, Repr

namespace PostQueue

def defaultCapacity : Nat := 32

/-- A new queue with one sender; a capacity of zero is raised to one. -/
def make? (capacity : Nat) : Option PostQueue :=
  (Channel.make? (max capacity 1)).map fun channel => { toChannel := channel }

def cloneSender (queue : PostQueue) : PostQueue :=
  { queue with toChannel := queue.toChannel.cloneSender }

def dropSender (queue : PostQueue) (sender : Nat) : PostQueue :=
  { queue with toChannel := queue.toChannel.dropSender sender }

def close (queue : PostQueue) : PostQueue :=
  { queue with toChannel := queue.toChannel.close }

def post (queue : PostQueue) (event : Event) : Except Refusal Unit × PostQueue :=
  match queue.trySend event with
  | (.ok _, channel) => (.ok (), { queue with toChannel := channel })
  | (.error fault, channel) =>
      (.error (.ofFault fault), { toChannel := channel, dropped := queue.dropped + 1 })

def tryNext (queue : PostQueue) : Option Event × PostQueue :=
  let (found, channel) := queue.tryReceive
  (found.toOption, { queue with toChannel := channel })

def poll (queue : PostQueue) : Poll Event × PostQueue :=
  let (found, channel) := queue.toChannel.poll
  (found, { queue with toChannel := channel })

theorem make?_eq_some_iff {capacity : Nat} {queue : PostQueue} :
    make? capacity = some queue ↔
      capacity ≤ Channel.capacityLimit ∧ { capacity := max capacity 1 } = queue := by
  have raised : 0 < max capacity 1 := Nat.le_max_right capacity 1
  have fits : max capacity 1 ≤ Channel.capacityLimit ↔ capacity ≤ Channel.capacityLimit := by
    rw [Nat.max_le, and_iff_left]
    decide
  simp [make?, Channel.make?_eq_some_iff, raised, fits, and_assoc]

theorem post_of_closed {queue : PostQueue} (h : queue.receiving = false) (event : Event) :
    queue.post event = (.error (.closed event), { queue with dropped := queue.dropped + 1 }) := by
  rw [post, Channel.trySend_of_closed h]
  rfl

theorem post_of_full {queue : PostQueue} (alive : queue.receiving = true)
    (h : queue.capacity ≤ queue.waiting.length) (event : Event) :
    queue.post event = (.error (.full event), { queue with dropped := queue.dropped + 1 }) := by
  rw [post, Channel.trySend_of_full alive h]
  rfl

theorem post_of_room {queue : PostQueue} (alive : queue.receiving = true)
    (h : queue.waiting.length < queue.capacity) (event : Event) :
    queue.post event = (.ok (), { queue with waiting := queue.waiting ++ [event] }) := by
  rw [post, Channel.trySend_of_room alive h]

theorem tryNext_of_nil {queue : PostQueue} (h : queue.waiting = []) :
    queue.tryNext = (none, queue) := by
  rw [tryNext, Channel.tryReceive_of_nil h]
  rfl

theorem tryNext_of_cons {queue : PostQueue} {event : Event} {rest : List Event}
    (h : queue.waiting = event :: rest) :
    queue.tryNext = (some event, { queue with waiting := rest }) := by
  rw [tryNext, Channel.tryReceive_of_cons h]
  rfl

theorem poll_of_nil {queue : PostQueue} (h : queue.waiting = []) :
    queue.poll = (if queue.hasSender then .pending else .ready none, queue) := by
  rw [poll, Channel.poll_of_nil h]

theorem poll_of_cons {queue : PostQueue} {event : Event} {rest : List Event}
    (h : queue.waiting = event :: rest) :
    queue.poll = (.ready (some event), { queue with waiting := rest }) := by
  rw [poll, Channel.poll_of_cons h]

end PostQueue

end RadioInterrupt
