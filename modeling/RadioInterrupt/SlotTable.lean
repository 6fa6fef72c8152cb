import RadioInterrupt.Registration

/-!
Tables with a fixed number of slots, each empty or holding one value.

`insert` checks the index and says whether a value was replaced; `load` overwrites every slot.  The
number of held values (`configured`), the list of held indices (`populated`) and the emptiness test
are three readings of the same slots.
-/

namespace RadioInterrupt

structure SlotTable (α : Type) (n : Nat) where
  slots : Vector (Option α) n

namespace SlotTable

variable {α : Type} {n : Nat}

def empty : SlotTable α n :=
  ⟨Vector.replicate n none⟩

instance : EmptyCollection (SlotTable α n) :=
  ⟨empty⟩

/-- The value held at an index; none for an empty slot and past the end. -/
def get? (table : SlotTable α n) (index : Nat) : Option α :=
  table.slots[index]?.join

def isSet (table : SlotTable α n) (index : Nat) : Bool :=
  (table.get? index).isSome

def configured (table : SlotTable α n) : Nat :=
  table.slots.toList.countP Option.isSome

def isEmpty (table : SlotTable α n) : Bool :=
  table.slots.toList.all Option.isNone

def populated (table : SlotTable α n) : List Nat :=
  (List.range n).filter table.isSet

def insert (table : SlotTable α n) (index : Nat) (value : α) :
    Except OutOfRange (Registration × SlotTable α n) :=
  if h : index < n then
    .ok (if table.isSet index then .replaced else .registered,
      ⟨table.slots.set index (some value) h⟩)
  else
    .error ⟨index, n⟩

def load (_table : SlotTable α n) (entries : Vector (Option α) n) : SlotTable α n :=
  ⟨entries⟩

def modify (table : SlotTable α n) (index : Nat) (change : α → α) : SlotTable α n :=
  if h : index < n then ⟨table.slots.set index (table.slots[index].map change) h⟩ else table

def describe (table : SlotTable α n) : String :=
  "HandlerTable \x7b len: " ++ toString n ++ ", populated: [" ++
    ", ".intercalate (table.populated.map toString) ++ "] \x7d"

def describeLines (table : SlotTable α n) : String :=
  let items := table.populated.map fun index => "        " ++ toString index ++ ",\n"
  let list := if items.isEmpty then "[]" else "[\n" ++ String.join items ++ "    ]"
  "HandlerTable \x7b\n    len: " ++ toString n ++ ",\n    populated: " ++ list ++ ",\n\x7d"

@[simp] theorem get?_empty (index : Nat) : (empty : SlotTable α n).get? index = none := by
  by_cases h : index < n <;> simp [get?, empty, h]

theorem get?_eq_none_of_le {table : SlotTable α n} {index : Nat} (h : n ≤ index) :
    table.get? index = none := by
  simp [get?, h]

theorem isSet_iff {table : SlotTable α n} {index : Nat} :
    table.isSet index = true ↔ ∃ value, table.get? index = some value := by
  simp [isSet, Option.isSome_iff_exists]

theorem insert_of_lt (table : SlotTable α n) {index : Nat} (h : index < n) (value : α) :
    table.insert index value =
      .ok (if table.isSet index then .replaced else .registered,
        ⟨table.slots.set index (some value) h⟩) := by
  simp [insert, h]

theorem insert_of_le (table : SlotTable α n) {index : Nat} (h : n ≤ index) (value : α) :
    table.insert index value = .error ⟨index, n⟩ := by
  simp [insert, Nat.not_lt.mpr h]

theorem get?_set (table : SlotTable α n) {index : Nat} (h : index < n) (value : α) (other : Nat) :
    (⟨table.slots.set index (some value) h⟩ : SlotTable α n).get? other =
      if other = index then some value else table.get? other := by
  by_cases hs : index = other
  · subst hs
    simp [get?, h]
  · simp [get?, Vector.getElem?_set_ne h hs, Ne.symm hs]

theorem get?_modify (table : SlotTable α n) (index : Nat) (change : α → α) (other : Nat) :
    (table.modify index change).get? other =
      if other = index then (table.get? other).map change else table.get? other := by
  by_cases h : index < n
  · by_cases hs : index = other
    · subst hs
      simp [modify, get?, h]
    · simp [modify, get?, h, Vector.getElem?_set_ne h hs, Ne.symm hs]
  · by_cases hs : other = index
    · subst hs
      simp [modify, get?, h]
    · simp [modify, h, hs]

end SlotTable

end RadioInterrupt
