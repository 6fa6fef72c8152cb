/-!
The room that a machine takes.

A machine has states; a branch has links to further states, and a table has entries for ranges of
bytes.  States are numbered in the order in which they are added.
-/

namespace RadioInterrupt.Pattern.Machine

def stateSize : Nat := 32

def linkSize : Nat := 4

def entrySize : Nat := 8

def sizeLimit : Nat := 10 * 1024 * 1024

/-- The number of states so far, and the size of their links and entries. -/
structure Room where
  states : Nat
  extra : Nat
  deriving DecidableEq, Repr

namespace Room

def empty : Room := ⟨0, 0⟩

def size (room : Room) : Nat :=
  room.states * stateSize + room.extra

def isOver (room : Room) : Bool :=
  sizeLimit < room.size

def addStates (room : Room) (count : Nat) : Room :=
  { room with states := room.states + count }

def addLinks (room : Room) (count : Nat) : Room :=
  { room with extra := room.extra + count * linkSize }

def addEntries (room : Room) (count : Nat) : Room :=
  { room with extra := room.extra + count * entrySize }

end Room

end RadioInterrupt.Pattern.Machine
