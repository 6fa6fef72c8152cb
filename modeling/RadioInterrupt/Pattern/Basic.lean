import RadioInterrupt.Pattern.Phrase

/-!
Patterns: regular expressions with conditions on the places between characters.

`Pattern.reach` says where the matches end that begin at given places, and `Pattern.occursIn`
whether a pattern matches anywhere in a text.  The smart constructors bring patterns into a form in
which parts that match only the empty text, choices between characters and common beginnings of
choices are simplified.
-/

namespace RadioInterrupt

inductive Assertion where
  | textStart
  | textEnd
  | lineStart (crlf : Bool)
  | lineEnd (crlf : Bool)
  | word (edge : Pattern.WordEdge) (unicode : Bool)
  deriving DecidableEq, Repr

namespace Assertion

def isWord (side : Option Char) : Bool :=
  side.any Pattern.CharSet.word.contains

def holds (before after : Option Char) : Assertion → Bool
  | .textStart => before.isNone
  | .textEnd => after.isNone
  | .lineStart crlf =>
      before.isNone || before = some '\n' || (crlf && before = some '\r' && after ≠ some '\n')
  | .lineEnd crlf =>
      after.isNone || (after = some '\n' && !(crlf && before = some '\r')) ||
        (crlf && after = some '\r')
  | .word .boundary _ => isWord before != isWord after
  | .word .notBoundary _ => isWord before == isWord after
  | .word .start _ => !isWord before && isWord after
  | .word .stop _ => isWord before && !isWord after
  | .word .startHalf _ => !isWord before
  | .word .stopHalf _ => !isWord after

end Assertion

inductive Pattern where
  | nothing
  | assertion (condition : Assertion)
  | chars (set : Pattern.CharSet) (byBytes : Bool)
  | sequence (first second : Pattern)
  | either (left right : Pattern)
  | repeated (body : Pattern) (least : Nat) (most : Option Nat) (reluctant : Bool)
  | group (number : Nat) (body : Pattern)
  deriving DecidableEq, Repr

namespace Pattern

/-! ## Matching -/

/-- A set of places in a text, one bit for each place. -/
abbrev Places := Nat

def placesWhere (holds : Option Char → Option Char → Bool) (before : Option Char) :
    List Char → Places
  | [] => (holds before none).toNat
  | c :: rest => (holds before (some c)).toNat + 2 * placesWhere holds (some c) rest

def follow : List Places → Places → Places
  | [], _ => 0
  | row :: rows, places =>
      if places = 0 then 0
      else (if places % 2 = 1 then row else 0) ||| follow rows (places / 2)

def settle (step : List Places → List Places) : Nat → List Places → List Places
  | 0, rows => rows
  | rounds + 1, rows =>
      let next := step rows
      if next = rows then rows else settle step rounds next

def loopDepth : Pattern → Nat
  | .nothing | .assertion _ | .chars _ _ => 0
  | .sequence first second | .either first second => max first.loopDepth second.loopDepth
  | .repeated body _ most _ => if most = some 1 then body.loopDepth else body.loopDepth + 1
  | .group _ body => body.loopDepth

/-- For each of some sets of places, the places where matches end that begin there.

Of the copies in a repetition no more count than there are places: a further copy would be empty,
and can be left out or put in.  Where many repetitions stand one inside the other, the inner ones
are gone through once for each place, and the copies follow that table. -/
def reach (text : List Char) (pattern : Pattern) (rows : List Places) : List Places :=
  if rows.all (· = 0) then rows
  else
    match pattern with
    | .nothing => rows
    | .assertion condition =>
        let here := placesWhere (fun before after => condition.holds before after) none text
        rows.map (· &&& here)
    | .chars set _ =>
        let here := placesWhere (fun _ after => after.any set.contains) none text
        rows.map fun places => (places &&& here) <<< 1
    | .sequence first second => second.reach text (first.reach text rows)
    | .either left right => List.zipWith (· ||| ·) (left.reach text rows) (right.reach text rows)
    | .repeated body least most _ =>
        let count := text.length + 1
        let table :=
          if most = some 1 || body.loopDepth < 3 then none
          else some (body.reach text ((List.range count).map (1 <<< ·)))
        let step := fun rows =>
          match table with
          | some table => rows.map (follow table)
          | none => body.reach text rows
        let started := settle step (min least count) rows
        let more := (most.map (· - least)).getD count
        settle (fun rows => List.zipWith (· ||| ·) rows (step rows)) (min more count) started
    | .group _ body => body.reach text rows

def occursIn (pattern : Pattern) (text : String) : Bool :=
  let letters := text.toList
  (pattern.reach letters [1 <<< (letters.length + 1) - 1]).any (· ≠ 0)

/-! ## Lengths -/

def isOnlyEmpty : Pattern → Bool
  | .nothing | .assertion _ => true
  | .chars _ _ => false
  | .sequence first second => first.isOnlyEmpty && second.isOnlyEmpty
  | .either left right => left.isOnlyEmpty && right.isOnlyEmpty
  | .repeated body _ most _ => most.isSome && body.isOnlyEmpty
  | .group _ body => body.isOnlyEmpty

def leastLength : Pattern → Option Nat
  | .nothing | .assertion _ => some 0
  | .chars set _ => if set.ranges.isEmpty then none else some 1
  | .sequence first second =>
      match first.leastLength, second.leastLength with
      | some m, some n => some (m + n)
      | _, _ => none
  | .either left right =>
      match left.leastLength, right.leastLength with
      | some m, some n => some (min m n)
      | _, _ => none
  | .repeated body least _ _ => body.leastLength.map (least * ·)
  | .group _ body => body.leastLength

/-! ## Smart constructors -/

def followedBy (first second : Pattern) : Pattern :=
  match first, second with
  | .nothing, _ => second
  | _, .nothing => first
  | _, _ => .sequence first second

/-- A character of a set.  For one character and for none it is the same whether the set is one of
bytes. -/
def ofSet (set : CharSet) (byBytes : Bool) : Pattern :=
  .chars set (byBytes && !set.ranges.isEmpty && set.single?.isNone)

def ofSequence (patterns : List Pattern) : Pattern :=
  patterns.foldr followedBy .nothing

def ofRepetition (body : Pattern) (least : Nat) (most : Option Nat) (reluctant : Bool) : Pattern :=
  let (least, most) :=
    if body.isOnlyEmpty then (min least 1, some (min 1 (most.getD 1))) else (least, most)
  if most = some 0 then .nothing
  else if least = 1 && most = some 1 then body
  else .repeated body least most reluctant

def choices : Pattern → List Pattern
  | .either left right => left.choices ++ right.choices
  | pattern => [pattern]

def items : Pattern → List Pattern
  | .sequence first second => first.items ++ second.items
  | .nothing => []
  | pattern => [pattern]

def charSet? : Pattern → Option CharSet
  | .chars set _ => some set
  | _ => none

def single? (pattern : Pattern) : Option Char :=
  pattern.charSet?.bind CharSet.single?

def chunks (pattern : Pattern) : List (List Pattern) :=
  pattern.items.foldr (fun item chunks =>
    match chunks with
    | (next :: more) :: rest =>
        if item.single?.isSome && next.single?.isSome then (item :: next :: more) :: rest
        else [item] :: chunks
    | _ => [item] :: chunks) []

def commonPrefix : List (List Pattern) → List (List Pattern) → List (List Pattern)
  | left :: lefts, right :: rights =>
      if left = right then left :: commonPrefix lefts rights else []
  | _, _ => []

def ofChoicesUpTo (rounds : Nat) (patterns : List Pattern) : Pattern :=
  let patterns := patterns.flatMap choices
  let sets := patterns.filterMap charSet?
  let singles := sets.filter fun set => set.single?.isSome
  if sets.length = patterns.length && (singles.isEmpty || singles.length = sets.length) then
    ofSet (.ofRanges (sets.flatMap CharSet.ranges)) false
  else
    let sequences := patterns.map chunks
    let common := (sequences.drop 1).foldl commonPrefix (sequences.headD [])
    let plain :=
      match patterns.reverse with
      | [] => .nothing
      | last :: others => others.foldl (fun rest pattern => .either pattern rest) last
    match rounds with
    | 0 => plain
    | rounds + 1 =>
        if common.isEmpty || sequences.any (fun chunks => chunks.length < 2) then plain
        else
          let rests := sequences.map fun chunks =>
            ofSequence (chunks.drop common.length).flatten
          (ofSequence common.flatten).followedBy (ofChoicesUpTo rounds rests)

def size : Pattern → Nat
  | .sequence first second => first.size + second.size + 1
  | .either left right => left.size + right.size + 1
  | .repeated body _ _ _ | .group _ body => body.size + 1
  | .nothing | .assertion _ | .chars _ _ => 1

def ofChoices (patterns : List Pattern) : Pattern :=
  ofChoicesUpTo ((patterns.map size).foldl (· + ·) 0) patterns

end Pattern

end RadioInterrupt
