import RadioInterrupt.Pattern.Basic
import RadioInterrupt.Pattern.Encoding

/-!
The words with which matches begin.

`Pattern.openings` finds a few words of which one stands at the beginning of each match.  Where they
are whole matches, a text need only be searched for words, as `Pattern.isWordSearch` says.
-/

namespace RadioInterrupt

namespace Pattern

/-- The bytes at the beginning of a match; the word is exact if they are the whole match. -/
structure Word where
  bytes : List Nat
  isExact : Bool
  deriving DecidableEq, Repr

namespace Word

def inexact (word : Word) : Word := { word with isExact := false }

def take (count : Nat) (word : Word) : Word :=
  if count < word.bytes.length then ⟨word.bytes.take count, false⟩ else word

def followedBy (word : Word) (words : List Word) : List Word :=
  if word.isExact then words.map fun next => ⟨word.bytes ++ next.bytes, next.isExact⟩ else [word]

def joinEqual (words : List Word) : List Word :=
  words.foldr (fun word rest =>
    match rest with
    | next :: more =>
        if word.bytes = next.bytes then ⟨word.bytes, word.isExact && next.isExact⟩ :: more
        else word :: rest
    | [] => [word]) []

end Word

inductive Openings where
  | anything
  | oneOf (words : List Word)
  deriving DecidableEq, Repr

namespace Openings

def classLimit : Nat := 10

def copyLimit : Nat := 10

def lengthLimit : Nat := 100

def wordLimit : Nat := 250

def ofBytes (bytes : List Nat) : Openings :=
  .oneOf [Word.take lengthLimit ⟨bytes, true⟩]

def ofSet (set : CharSet) : Openings :=
  let codes := set.ranges.flatMap fun range =>
    List.range' range.first (min (range.last + 1 - range.first) (classLimit + 1))
  if classLimit < codes.length then .anything
  else .oneOf (codes.map fun code => ⟨bytesOf code, true⟩)

def isClosed : Openings → Bool
  | .anything => true
  | .oneOf words => words.all fun word => !word.isExact

def inexact : Openings → Openings
  | .anything => .anything
  | .oneOf words => .oneOf (words.map Word.inexact)

def followedBy : Openings → Openings → Openings
  | .anything, _ => .anything
  | .oneOf words, .anything => goOn words
  | .oneOf words, .oneOf nexts =>
      if wordLimit < words.length * nexts.length then goOn words
      else
        let longer := words.flatMap fun word => word.followedBy nexts
        .oneOf ((Word.joinEqual longer).map (Word.take lengthLimit))
where
  goOn (words : List Word) : Openings :=
    if words.any fun word => word.bytes.isEmpty then .anything
    else .oneOf (words.map Word.inexact)

def either : Openings → Openings → Openings
  | .anything, _ | _, .anything => .anything
  | .oneOf lefts, .oneOf rights =>
      if lefts.length + rights.length ≤ wordLimit then .oneOf (Word.joinEqual (lefts ++ rights))
      else
        let lefts := Word.joinEqual (lefts.map (Word.take 4))
        let rights := Word.joinEqual (rights.map (Word.take 4))
        if lefts.length + rights.length ≤ wordLimit then .oneOf (Word.joinEqual (lefts ++ rights))
        else .anything

def copies (openings : Openings) : Nat → Openings → Openings
  | 0, found => found
  | count + 1, found =>
      if found.isClosed then found else openings.copies count (found.followedBy openings)

def repeated (openings : Openings) (least : Nat) (most : Option Nat) (reluctant : Bool) :
    Openings :=
  if least = 0 then
    let some := if most = some 1 then openings else openings.inexact
    if reluctant then (ofBytes []).either some else some.either (ofBytes [])
  else
    let found := openings.copies (min least copyLimit) (ofBytes [])
    if most = some least && least ≤ copyLimit then found else found.inexact

end Openings

def bytesOfChunk (chunk : List Pattern) : Option (List Nat) :=
  (chunk.mapM single?).map fun chars => chars.flatMap fun c => bytesOf c.toNat

def openingsUpTo : Nat → Pattern → Openings
  | 0, _ => .anything
  | depth + 1, pattern =>
      match pattern with
      | .nothing | .assertion _ => .ofBytes []
      | .chars set _ => .ofSet set
      | .sequence _ _ =>
          pattern.chunks.foldl (fun found chunk =>
            if found.isClosed then found
            else
              let next :=
                match bytesOfChunk chunk, chunk with
                | some bytes, _ => .ofBytes bytes
                | none, [item] => openingsUpTo depth item
                | none, _ => .anything
              found.followedBy next) (.ofBytes [])
      | .either _ _ =>
          pattern.choices.foldl (fun found choice =>
            if found = .anything then found else found.either (openingsUpTo depth choice))
            (.oneOf [])
      | .repeated body least most reluctant =>
          (openingsUpTo depth body).repeated least most reluctant
      | .group _ body => openingsUpTo depth body

def openings (pattern : Pattern) : Openings :=
  openingsUpTo pattern.size pattern

/-! ## Searching for words -/

namespace Word

def withoutLonger (words : List Word) : List Word :=
  let kept := words.foldl (fun kept word =>
    if kept.any fun earlier => earlier.bytes.isPrefixOf word.bytes then kept else word :: kept) []
  kept.reverse

def commonBytes : List Word → List Nat
  | [] => []
  | first :: others => others.foldl (fun common word =>
      ((common.zip word.bytes).takeWhile fun (left, right) => left = right).map Prod.fst)
      first.bytes

def isFrequent (byte : Nat) : Bool :=
  128 ≤ byte ||
    "\n\r (),-./0129:_abcdefghilmnoprstuvxy|".toList.any fun c => c.toNat = byte

def shorten (words : List Word) : List (Nat × Nat) → List Word
  | [] => words
  | (length, limit) :: rest =>
      if words.length ≤ limit then words
      else shorten (withoutLonger (words.map (Word.take length))) rest

/-- Exact words are searched for as they are, unless shorter beginnings of them are better.  That is
so if all begin with one rare byte, or with the same long bytes, or if there are many words and
fewer beginnings of at least three bytes. -/
def areSearched (words : List Word) : Bool :=
  let distinct := withoutLonger words
  let common := commonBytes distinct
  let isExact := distinct.all Word.isExact
  let rare := match common with
    | first :: _ => 1 < words.length && common.length ≤ 3 && !isFrequent first
    | [] => false
  let isFew := isExact && distinct.length ≤ 16
  if rare then (distinct.map (Word.take 1)).all Word.isExact
  else if 4 < common.length || (1 < common.length && !isFew) then
    (distinct.map (Word.take common.length)).all Word.isExact
  else
    let short := shorten distinct [(5, 10), (4, 10), (3, 64), (2, 64), (1, 10)]
    let isBetter := short.length ≤ 64 && short.all fun word => 2 < word.bytes.length
    isExact && !(isBetter && short.any fun word => !word.isExact)

end Word

def isPlain : Pattern → Bool
  | .nothing | .chars _ _ => true
  | .assertion _ | .group _ _ => false
  | .sequence first second | .either first second => first.isPlain && second.isPlain
  | .repeated body _ _ _ => body.isPlain

def isWordList (pattern : Pattern) : Bool :=
  let choices := pattern.choices
  let isWord := fun (choice : Pattern) =>
    match choice.chunks with
    | [chunk] => (bytesOfChunk chunk).isSome
    | _ => false
  3000 ≤ choices.length && choices.all isWord

def isWordSearch (pattern : Pattern) : Bool :=
  pattern.isPlain &&
    match (Openings.oneOf []).either pattern.openings with
    | .anything => pattern.isWordList
    | .oneOf words =>
        let areUseful := !words.isEmpty && words.all fun word => !word.bytes.isEmpty
        (areUseful && Word.areSearched words) || pattern.isWordList

end Pattern

end RadioInterrupt
