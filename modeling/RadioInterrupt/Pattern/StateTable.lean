import Std.Data.HashMap
import RadioInterrupt.Pattern.Encoding
import RadioInterrupt.Pattern.Room

/-!
States that read the bytes of characters, with those that read the same shared.

A state is described by numbers.  States are looked up in a table by their description; the table
has a fixed number of slots, and a state that comes into a slot displaces the one before it, so that
a state is not shared if another one has taken its slot.
-/

namespace RadioInterrupt.Pattern.Machine

structure StateTable where
  slotCount : Nat
  slots : Std.HashMap Nat (List Nat × Nat)

namespace StateTable

def empty (slotCount : Nat) : StateTable := ⟨slotCount, {}⟩

def hash (description : List Nat) : UInt64 :=
  description.foldl (fun hash number => (hash ^^^ number.toUInt64) * 1099511628211)
    14695981039346656037

def slotOf (table : StateTable) (description : List Nat) : Nat :=
  (hash description).toNat % table.slotCount

def find? (table : StateTable) (description : List Nat) : Option Nat :=
  match table.slots[table.slotOf description]? with
  | some (found, state) => if found = description then some state else none
  | none => none

def insert (table : StateTable) (description : List Nat) (state : Nat) : StateTable :=
  { table with slots := table.slots.insert (table.slotOf description) (description, state) }

end StateTable

structure Shared where
  room : Room
  table : StateTable

def Shared.state (shared : Shared) (description : List Nat) (entries : Nat) : Nat × Shared :=
  match shared.table.find? description with
  | some state => (state, shared)
  | none =>
      let state := shared.room.states
      let room := (shared.room.addStates 1).addEntries entries
      (state, ⟨room, shared.table.insert description state⟩)

def groupByFirst (sequences : List (List CharRange)) :
    List (CharRange × List (List CharRange)) :=
  sequences.foldr (fun sequence groups =>
    match sequence, groups with
    | [], _ => groups
    | first :: tail, (next, tails) :: more =>
        if next = first then (next, tail :: tails) :: more
        else (first, [tail]) :: (next, tails) :: more
    | first :: tail, [] => [(first, [tail])]) []

/-- The state that reads one of some byte sequences and goes on in another state.  It has an entry
for each range with which they begin, and the states behind it are there before it. -/
def readingState (target : Nat) : Nat → List (List CharRange) → Shared → Nat × Shared
  | 0, _, shared => (target, shared)
  | length + 1, sequences, shared =>
      match groupByFirst sequences with
      | [] => (target, shared)
      | groups =>
          let (entries, shared) := groups.foldl
            (fun (entries, shared) (range, tails) =>
              let (next, shared) := readingState target length tails shared
              ([range.first, range.last, next] :: entries, shared))
            ([], shared)
          shared.state entries.reverse.flatten entries.length

def readForward (sequences : List (List CharRange)) (room : Room) : Room :=
  (readingState room.states 4 sequences ⟨room.addStates 1, .empty 10000⟩).2.room

/-- A branch to states that read the sequences from their last bytes on.  The states that read the
first bytes lead to one last state; others lead to the state of the byte before. -/
def readBackward (sequences : List (List CharRange)) (room : Room) : Room :=
  let last := room.states + 1
  let shared := sequences.foldl
    (fun (shared : Shared) sequence =>
      let (_, shared) := sequence.foldl
        (fun (next, shared) (range : CharRange) =>
          shared.state [next, range.first, range.last] 0)
        (last, shared)
      { shared with room := shared.room.addLinks 1 })
    ⟨room.addStates 2, .empty 1000⟩
  shared.room

end RadioInterrupt.Pattern.Machine
