import RadioInterrupt.Pattern.Escape

/-!
Reading classes: sets of characters between brackets.

A class holds characters, ranges, named sets and further classes.  Operators combine all that stands
before them with what stands behind them.
-/

namespace RadioInterrupt.Pattern.Reader

structure Members where
  span : Span
  items : List Member := []

namespace Members

def push (members : Members) (item : Member) : Members :=
  { span := ⟨if members.items.isEmpty then item.span.start else members.span.start, item.span.stop⟩
    items := item :: members.items }

def toMember (members : Members) : Member :=
  match members.items with
  | [] => .empty members.span
  | [item] => item
  | items => .union members.span items.reverse

end Members

structure OpenClass where
  span : Span
  negated : Bool
  pending : Option (ClassOperator × Member) := none
  members : Members

namespace OpenClass

def add (cls : OpenClass) (item : Member) : OpenClass :=
  { cls with members := cls.members.push item }

def content (cls : OpenClass) : Member :=
  let right := cls.members.toMember
  match cls.pending with
  | none => right
  | some (operator, left) => .operation ⟨left.span.start, right.span.stop⟩ operator left right

def operate (cls : OpenClass) (operator : ClassOperator) (place : Nat) : OpenClass :=
  { cls with pending := some (operator, cls.content), members := ⟨.at place, []⟩ }

def close (cls : OpenClass) (place : Nat) : Member :=
  .bracketed ⟨cls.span.start, place⟩ cls.negated cls.content

end OpenClass

def classOperator? (cursor : Cursor) : Option (ClassOperator × Cursor) :=
  match cursor.rest with
  | '&' :: '&' :: _ => some (.intersection, cursor.next.next)
  | '-' :: '-' :: _ => some (.difference, cursor.next.next)
  | '~' :: '~' :: _ => some (.symmetricDifference, cursor.next.next)
  | _ => none

def readHyphens (spaced : Bool) (cursor : Cursor) : Members × Cursor :=
  let rec go : Nat → Members → Cursor → Members × Cursor
    | 0, members, cursor => (members, cursor)
    | rounds + 1, members, cursor =>
        if cursor.rest.head? = some '-' then
          go rounds (members.push (.literal ⟨'-', cursor.spanChar, false⟩)) (cursor.advance spaced)
        else (members, cursor)
  go cursor.rest.length ⟨cursor.spanHere, []⟩ cursor

def openClass (spaced : Bool) (cursor : Cursor) : Except Fault (OpenClass × Cursor) :=
  let start := cursor.place
  let first := cursor.advance spaced
  let negated := first.rest.head? = some '^'
  let inside := if negated then first.advance spaced else first
  if inside.rest.isEmpty then fail .classUnclosed (inside.spanFrom start)
  else
    let (hyphens, behind) := readHyphens spaced inside
    if behind.rest.isEmpty then fail .classUnclosed (.at start)
    else
      let startsWithBracket := hyphens.items.isEmpty && behind.rest.head? = some ']'
      let members :=
        if startsWithBracket then hyphens.push (.literal ⟨']', behind.spanChar, false⟩)
        else hyphens
      let last := if startsWithBracket then behind.advance spaced else behind
      if last.rest.isEmpty then fail .classUnclosed (last.spanFrom start)
      else .ok ({ span := last.spanFrom start, negated, members }, last)

def namedSet? (cursor : Cursor) : Option (Member × Cursor) := do
  let inside ← cursor.eat? "[:"
  let negated := inside.rest.head? = some '^'
  let first := if negated then inside.next else inside
  let (name, last) := first.takeWhile (· ≠ ':') false
  let behind ← last.eat? ":]"
  let set ← CharSet.ofName? (String.ofList name)
  pure (.named (behind.spanFrom cursor.place) negated set, behind)

def readClassPhrase (spaced : Bool) (cursor : Cursor) : Except Fault (Phrase × Cursor) :=
  match cursor.rest with
  | c :: _ =>
      if c = '\\' then readEscape spaced cursor
      else .ok (.literal ⟨c, cursor.spanChar, false⟩, cursor.next)
  | [] => fail .classUnclosed cursor.spanHere

def memberOf : Phrase → Except Fault Member
  | .literal part => .ok (.literal part)
  | .shorthand span negated set => .ok (.shorthand span negated set)
  | .property span name => .ok (.property span name)
  | phrase => fail .classEscapeInvalid phrase.span

def endOf : Phrase → Except Fault Literal
  | .literal part => .ok part
  | phrase => fail .classRangeLiteral phrase.span

def readRange (spaced : Bool) (opening : Span) (cursor : Cursor) :
    Except Fault (Member × Cursor) := do
  let (first, behind) ← readClassPhrase spaced cursor
  let hyphen := behind.skip spaced
  let next := hyphen.peek spaced
  match hyphen.rest with
  | [] => fail .classUnclosed opening
  | c :: _ =>
      if c ≠ '-' || next = some ']' || next = some '-' then pure (← memberOf first, hyphen)
      else
        let second := hyphen.advance spaced
        if second.rest.isEmpty then fail .classUnclosed opening
        else
          let (last, behind) ← readClassPhrase spaced second
          let low ← endOf first
          let high ← endOf last
          let span : Span := ⟨low.span.start, high.span.stop⟩
          if low.char ≤ high.char then pure (.range span low high, behind)
          else fail .classRangeInvalid span

/-- Reads the rest of a class up to its closing bracket.  Every round moves the cursor, so the
number of characters bounds the rounds. -/
def readClass (spaced : Bool) : Nat → OpenClass → Cursor → Except Fault (Member × Cursor)
  | 0, cls, _ => fail .classUnclosed cls.span
  | rounds + 1, cls, cursor => do
      let cursor := cursor.skip spaced
      match cursor.rest with
      | [] => fail .classUnclosed cls.span
      | ']' :: _ => pure (cls.close (cursor.place + 1), cursor.next)
      | '[' :: _ =>
          match namedSet? cursor with
          | some (item, behind) => readClass spaced rounds (cls.add item) behind
          | none =>
              let (inner, inside) ← openClass spaced cursor
              let (item, behind) ← readClass spaced rounds inner inside
              readClass spaced rounds (cls.add item) behind
      | _ =>
          match classOperator? cursor with
          | some (operator, behind) =>
              readClass spaced rounds (cls.operate operator behind.place) behind
          | none =>
              let (item, behind) ← readRange spaced cls.span cursor
              readClass spaced rounds (cls.add item) behind

end RadioInterrupt.Pattern.Reader
