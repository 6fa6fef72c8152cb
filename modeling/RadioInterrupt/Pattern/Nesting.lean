import RadioInterrupt.Pattern.Fault

/-!
How deep phrases may be nested.

Classes, repetitions, groups, choices and sequences count, and inside classes the same holds of
inner classes, of members side by side and of operators.
-/

namespace RadioInterrupt.Pattern

mutual

/-- The first part, from the outside in and from left to right, that is nested deeper than there is
room for. -/
def Member.tooDeep? : Member → (room : Nat) → Option Span
  | .bracketed span _ _, 0 | .union span _, 0 | .operation span _ _ _, 0 => some span
  | .bracketed _ _ content, room + 1 => content.tooDeep? room
  | .union _ items, room + 1 => Member.firstTooDeep? items room
  | .operation _ _ left right, room + 1 => left.tooDeep? room <|> right.tooDeep? room
  | _, _ => none

def Member.firstTooDeep? : List Member → (room : Nat) → Option Span
  | [], _ => none
  | item :: items, room => item.tooDeep? room <|> Member.firstTooDeep? items room

end

mutual

def Phrase.tooDeep? : Phrase → (room : Nat) → Option Span
  | .bracket content, room => content.tooDeep? room
  | .repeated span _ _ _ _, 0 | .group span _ _ _, 0 | .choice span _, 0
  | .sequence span _, 0 => some span
  | .repeated _ body _ _ _, room + 1 => body.tooDeep? room
  | .group _ _ _ body, room + 1 => body.tooDeep? room
  | .choice _ items, room + 1 => Phrase.firstTooDeep? items room
  | .sequence _ items, room + 1 => Phrase.firstTooDeep? items room
  | _, _ => none

def Phrase.firstTooDeep? : List Phrase → (room : Nat) → Option Span
  | [], _ => none
  | item :: items, room => item.tooDeep? room <|> Phrase.firstTooDeep? items room

end

def Phrase.depthLimit : Nat := 250

def Phrase.checkDepth (phrase : Phrase) : Except Fault Unit :=
  match phrase.tooDeep? depthLimit with
  | some span => .error (.misread (.nestedTooDeep depthLimit) span)
  | none => .ok ()

end RadioInterrupt.Pattern
