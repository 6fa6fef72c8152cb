import RadioInterrupt.Chip
import RadioInterrupt.Message
import RadioInterrupt.Note
import RadioInterrupt.PostQueue

/-!
The bench: what handlers and drivers share and act on.

It holds the simulated chips by number, the queue that events can be posted to, the notes that
handlers and drivers leave, and the log.  Notes and messages are kept in the order in which they
were made.
-/

namespace RadioInterrupt

structure Bench where
  chips : Nat → Chip := fun _ => {}
  queue : Option PostQueue := none
  notes : List Note := []
  log : List Message := []

/-- What is logged about a refused post; only a full queue is worth a message. -/
def Refusal.messages : Refusal → List Message
  | .full event => [.queueFull event]
  | .closed _ => []

namespace Bench

def say (bench : Bench) (messages : List Message) : Bench :=
  { bench with log := bench.log ++ messages }

def note (bench : Bench) (note : Note) : Bench :=
  { bench with notes := bench.notes ++ [note] }

def setChip (bench : Bench) (number : Nat) (chip : Chip) : Bench :=
  { bench with chips := fun other => if other = number then chip else bench.chips other }

def post (bench : Bench) (sender : Nat) (event : Event) : PostAnswer × Bench :=
  match bench.queue with
  | none => (.noSender, bench)
  | some queue =>
      if queue.isLive sender then
        match queue.post event with
        | (.ok _, queue) => (.accepted, { bench with queue := some queue })
        | (.error refusal, queue) =>
            (.refused refusal, { bench with queue := some queue }.say refusal.messages)
      else (.noSender, bench)

def tryNext (bench : Bench) : Option Event × Bench :=
  match bench.queue with
  | none => (none, bench)
  | some queue =>
      let (event, queue) := queue.tryNext
      (event, { bench with queue := some queue })

@[simp] theorem chips_say (bench : Bench) (messages : List Message) :
    (bench.say messages).chips = bench.chips := rfl

@[simp] theorem queue_say (bench : Bench) (messages : List Message) :
    (bench.say messages).queue = bench.queue := rfl

@[simp] theorem notes_say (bench : Bench) (messages : List Message) :
    (bench.say messages).notes = bench.notes := rfl

@[simp] theorem log_say (bench : Bench) (messages : List Message) :
    (bench.say messages).log = bench.log ++ messages := rfl

@[simp] theorem chips_note (bench : Bench) (note : Note) :
    (bench.note note).chips = bench.chips := rfl

@[simp] theorem queue_note (bench : Bench) (note : Note) :
    (bench.note note).queue = bench.queue := rfl

@[simp] theorem log_note (bench : Bench) (note : Note) :
    (bench.note note).log = bench.log := rfl

@[simp] theorem notes_note (bench : Bench) (note : Note) :
    (bench.note note).notes = bench.notes ++ [note] := rfl

@[simp] theorem chips_tryNext (bench : Bench) : bench.tryNext.2.chips = bench.chips := by
  unfold tryNext
  cases bench.queue <;> rfl

@[simp] theorem chips_setChip_self (bench : Bench) (number : Nat) (chip : Chip) :
    (bench.setChip number chip).chips number = chip := by
  simp [setChip]

theorem chips_setChip_of_ne (bench : Bench) {number other : Nat} (chip : Chip)
    (h : other ≠ number) : (bench.setChip number chip).chips other = bench.chips other := by
  simp [setChip, h]

end Bench

end RadioInterrupt
