/-!
Sets of characters, as ranges of character codes.

`CharSet.ofRanges` brings ranges into their one form, in which they ascend and in which between two
of them a code is missing.  The operations go from a code to that of the next character, so that
they step over the codes of no character.
-/

namespace RadioInterrupt.Pattern

structure CharRange where
  first : Nat
  last : Nat
  deriving DecidableEq, Repr

def CharRange.contains (range : CharRange) (code : Nat) : Bool :=
  range.first ≤ code && code ≤ range.last

structure CharSet where
  ranges : List CharRange
  deriving DecidableEq, Repr

namespace CharSet

def lastCode : Nat := 0x10FFFF

/-- The code of the next character.  The codes between 0xD7FF and 0xE000 are those of no
character. -/
def codeAfter (code : Nat) : Nat :=
  if code = 0xD7FF then 0xE000 else code + 1

def codeBefore (code : Nat) : Nat :=
  if code = 0xE000 then 0xD7FF else code - 1

def empty : CharSet := ⟨[]⟩

def full : CharSet := ⟨[⟨0, lastCode⟩]⟩

def single (c : Char) : CharSet := ⟨[⟨c.toNat, c.toNat⟩]⟩

def contains (set : CharSet) (c : Char) : Bool :=
  set.ranges.any fun range => range.contains c.toNat

/-! ## One form -/

def addLast (earlier : List CharRange) (range : CharRange) : List CharRange :=
  match earlier with
  | [] => [range]
  | last :: rest =>
      if range.first ≤ last.last + 1 then ⟨last.first, max last.last range.last⟩ :: rest
      else range :: last :: rest

def ofRanges (ranges : List CharRange) : CharSet :=
  let ascending := ranges.mergeSort fun left right => decide (left.first ≤ right.first)
  ⟨(ascending.foldl addLast []).reverse⟩

def ofLetters (ranges : List (Char × Char)) : CharSet :=
  ofRanges (ranges.map fun (first, last) => ⟨first.toNat, last.toNat⟩)

/-! ## Operations -/

def union (left right : CharSet) : CharSet :=
  ofRanges (left.ranges ++ right.ranges)

/-- What lies between two ranges, from the character behind the first one to the character before
the second one.  If no character lies there, these two change places, and the gap holds both. -/
def gap (left right : CharRange) : CharRange :=
  let start := codeAfter left.last
  let stop := codeBefore right.first
  ⟨min start stop, max start stop⟩

def complement (set : CharSet) : CharSet :=
  match set.ranges.head?, set.ranges.getLast? with
  | some first, some last =>
      let before := if 0 < first.first then [⟨0, codeBefore first.first⟩] else []
      let gaps := List.zipWith gap set.ranges (set.ranges.drop 1)
      let behind := if last.last < lastCode then [⟨codeAfter last.last, lastCode⟩] else []
      ⟨before ++ gaps ++ behind⟩
  | _, _ => full

def intersectionOnto (found : List CharRange) : List CharRange → List CharRange → List CharRange
  | left :: lefts, right :: rights =>
      let shared : CharRange := ⟨max left.first right.first, min left.last right.last⟩
      let found := if shared.first ≤ shared.last then shared :: found else found
      if left.last < right.last then intersectionOnto found lefts (right :: rights)
      else intersectionOnto found (left :: lefts) rights
  | _, _ => found
termination_by lefts rights => lefts.length + rights.length

def intersection (left right : CharSet) : CharSet :=
  ⟨(intersectionOnto [] left.ranges right.ranges).reverse⟩

def differenceOnto (found : List CharRange) : List CharRange → List CharRange → List CharRange
  | left :: lefts, right :: rights =>
      if right.last < left.first then differenceOnto found (left :: lefts) rights
      else if left.last < right.first then differenceOnto (left :: found) lefts (right :: rights)
      else
        let found :=
          if left.first < right.first then ⟨left.first, codeBefore right.first⟩ :: found else found
        if right.last < left.last then
          differenceOnto found (⟨codeAfter right.last, left.last⟩ :: lefts) rights
        else differenceOnto found lefts (right :: rights)
  | lefts, [] => lefts.reverse ++ found
  | [], _ => found
termination_by lefts rights => lefts.length + rights.length

def difference (left right : CharSet) : CharSet :=
  ⟨(differenceOnto [] left.ranges right.ranges).reverse⟩

def symmetricDifference (left right : CharSet) : CharSet :=
  (left.union right).difference (left.intersection right)

def single? (set : CharSet) : Option Char :=
  match set.ranges with
  | [range] => if range.first = range.last then some (Char.ofNat range.first) else none
  | _ => none

def isAscii (set : CharSet) : Bool :=
  set.ranges.all fun range => range.last < 128

def moved (range : CharRange) (first last target : Char) : List CharRange :=
  let start := max range.first first.toNat
  let stop := min range.last last.toNat
  if start ≤ stop then
    [⟨start - first.toNat + target.toNat, stop - first.toNat + target.toNat⟩]
  else []

def foldCase (set : CharSet) : CharSet :=
  set.union ⟨set.ranges.flatMap fun range => moved range 'a' 'z' 'A' ++ moved range 'A' 'Z' 'a'⟩

/-! ## Sets with a name -/

def digit : CharSet := ofLetters [('0', '9')]

def blank : CharSet := ofLetters [('\t', '\r'), (' ', ' ')]

def word : CharSet := ofLetters [('0', '9'), ('A', 'Z'), ('_', '_'), ('a', 'z')]

def ofName? : String → Option CharSet
  | "alnum" => some (ofLetters [('0', '9'), ('A', 'Z'), ('a', 'z')])
  | "alpha" => some (ofLetters [('A', 'Z'), ('a', 'z')])
  | "ascii" => some ⟨[⟨0, 127⟩]⟩
  | "blank" => some (ofLetters [('\t', '\t'), (' ', ' ')])
  | "cntrl" => some ⟨[⟨0, 31⟩, ⟨127, 127⟩]⟩
  | "digit" => some digit
  | "graph" => some (ofLetters [('!', '~')])
  | "lower" => some (ofLetters [('a', 'z')])
  | "print" => some (ofLetters [(' ', '~')])
  | "punct" => some (ofLetters [('!', '/'), (':', '@'), ('[', Char.ofNat 96), ('\x7b', '~')])
  | "space" => some blank
  | "upper" => some (ofLetters [('A', 'Z')])
  | "word" => some word
  | "xdigit" => some (ofLetters [('0', '9'), ('A', 'F'), ('a', 'f')])
  | _ => none

/-! ## Membership -/

@[simp] theorem contains_empty (c : Char) : empty.contains c = false := rfl

@[simp] theorem contains_single (c d : Char) : (single c).contains d = decide (c = d) := by
  have codes : c.toNat ≤ d.toNat ∧ d.toNat ≤ c.toNat ↔ c = d := by
    constructor
    · rintro ⟨le, ge⟩
      exact Char.ext (UInt32.toNat_inj.mp (Nat.le_antisymm le ge))
    · rintro rfl
      exact ⟨Nat.le_refl _, Nat.le_refl _⟩
  simp [single, contains, CharRange.contains, ← Bool.decide_and, codes]

theorem any_addLast (earlier : List CharRange) (range : CharRange) (code : Nat)
    (later : ∀ last ∈ earlier, last.first ≤ range.first) :
    (addLast earlier range).any (·.contains code) =
      (range.contains code || earlier.any (·.contains code)) := by
  cases earlier with
  | nil => rfl
  | cons last rest =>
      have before := later last List.mem_cons_self
      simp only [addLast]
      split
      · rw [List.any_cons, List.any_cons, ← Bool.or_assoc]
        congr 1
        rw [Bool.eq_iff_iff]
        simp only [CharRange.contains, Bool.or_eq_true, Bool.and_eq_true, decide_eq_true_eq]
        omega
      · rfl

theorem first_le_of_mem_addLast {earlier : List CharRange} {range found : CharRange}
    (later : ∀ last ∈ earlier, last.first ≤ range.first) (member : found ∈ addLast earlier range) :
    found.first ≤ range.first := by
  cases earlier with
  | nil => simp_all [addLast]
  | cons last rest =>
      simp only [addLast] at member
      split at member <;> simp only [List.mem_cons] at member later <;> grind

theorem any_foldl_addLast (ascending earlier : List CharRange) (code : Nat)
    (pairs : ascending.Pairwise fun left right => left.first ≤ right.first)
    (later : ∀ last ∈ earlier, ∀ range ∈ ascending, last.first ≤ range.first) :
    (ascending.foldl addLast earlier).any (·.contains code) =
      (ascending.any (·.contains code) || earlier.any (·.contains code)) := by
  induction ascending generalizing earlier with
  | nil => rfl
  | cons range rest ih =>
      have before : ∀ last ∈ earlier, last.first ≤ range.first :=
        fun last member => later last member range List.mem_cons_self
      obtain ⟨least, pairs⟩ := List.pairwise_cons.mp pairs
      rw [List.foldl_cons, ih _ pairs fun last member next found =>
        Nat.le_trans (first_le_of_mem_addLast before member) (least next found)]
      rw [any_addLast _ _ _ before, List.any_cons]
      cases range.contains code <;> simp

theorem contains_ofRanges (ranges : List CharRange) (c : Char) :
    (ofRanges ranges).contains c = ranges.any (·.contains c.toNat) := by
  let le := fun left right : CharRange => decide (left.first ≤ right.first)
  have sorted : (ranges.mergeSort le).Pairwise fun left right => left.first ≤ right.first := by
    have pairs := @List.pairwise_mergeSort _ le
      (fun a b c hab hbc => by simp only [le, decide_eq_true_eq] at *; omega)
      (fun a b => by simp only [le, Bool.or_eq_true, decide_eq_true_eq]; omega) ranges
    exact pairs.imp fun h => of_decide_eq_true h
  have members : ∀ range, range ∈ ranges.mergeSort le ↔ range ∈ ranges :=
    fun range => (List.mergeSort_perm ranges le).mem_iff
  have same : (ranges.mergeSort le).any (·.contains c.toNat) =
      ranges.any (·.contains c.toNat) := by
    rw [Bool.eq_iff_iff]
    simp only [List.any_eq_true, members]
  rw [contains, ofRanges, List.any_reverse]
  rw [any_foldl_addLast _ _ _ sorted (by simp), same]
  simp

@[simp] theorem contains_union (left right : CharSet) (c : Char) :
    (left.union right).contains c = (left.contains c || right.contains c) := by
  rw [union, contains_ofRanges, List.any_append]
  rfl

end CharSet

end RadioInterrupt.Pattern
