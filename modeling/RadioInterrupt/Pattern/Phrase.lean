import RadioInterrupt.Pattern.CharSet

/-!
Patterns as they are written.

A phrase keeps the places of its parts in the text.  What it stands for depends on the flags around
it, and some phrases stand for nothing that can be matched.
-/

namespace RadioInterrupt.Pattern

structure Span where
  start : Nat
  stop : Nat
  deriving DecidableEq, Repr

def Span.char (place : Nat) : Span := ⟨place, place + 1⟩

def Span.at (place : Nat) : Span := ⟨place, place⟩

inductive Flag where
  | ignoreCase
  | multiLine
  | dotMatchesNewline
  | swapGreed
  | unicode
  | crlf
  | spaced
  deriving DecidableEq, Repr

def Flag.ofLetter? : Char → Option Flag
  | 'i' => some .ignoreCase
  | 'm' => some .multiLine
  | 's' => some .dotMatchesNewline
  | 'U' => some .swapGreed
  | 'u' => some .unicode
  | 'R' => some .crlf
  | 'x' => some .spaced
  | _ => none

abbrev FlagChange := List (Flag × Bool)

structure Literal where
  char : Char
  span : Span
  /-- The literal is a code of two digits; where patterns go by bytes, it is a byte. -/
  isByte : Bool := false
  deriving DecidableEq, Repr

inductive WordEdge where
  | boundary
  | notBoundary
  | start
  | stop
  | startHalf
  | stopHalf
  deriving DecidableEq, Repr

inductive Mark where
  | lineStart
  | lineEnd
  | textStart
  | textEnd
  | word (edge : WordEdge)
  deriving DecidableEq, Repr

inductive ClassOperator where
  | intersection
  | difference
  | symmetricDifference
  deriving DecidableEq, Repr

def ClassOperator.apply : ClassOperator → CharSet → CharSet → CharSet
  | .intersection => .intersection
  | .difference => .difference
  | .symmetricDifference => .symmetricDifference

inductive Member where
  | empty (span : Span)
  | literal (literal : Literal)
  | range (span : Span) (first last : Literal)
  | named (span : Span) (negated : Bool) (set : CharSet)
  | shorthand (span : Span) (negated : Bool) (set : CharSet)
  | property (span : Span) (name : String)
  | bracketed (span : Span) (negated : Bool) (content : Member)
  | union (span : Span) (items : List Member)
  | operation (span : Span) (operator : ClassOperator) (left right : Member)
  deriving Repr

def Member.span : Member → Span
  | .literal part => part.span
  | .empty span | .range span _ _ | .named span _ _ | .shorthand span _ _ | .property span _
  | .bracketed span _ _ | .union span _ | .operation span _ _ _ => span

inductive Phrase where
  | empty (span : Span)
  | setting (span : Span) (change : FlagChange)
  | literal (literal : Literal)
  | dot (span : Span)
  | mark (span : Span) (mark : Mark)
  | shorthand (span : Span) (negated : Bool) (set : CharSet)
  | property (span : Span) (name : String)
  | bracket (content : Member)
  | repeated (span : Span) (body : Phrase) (least : Nat) (most : Option Nat) (reluctant : Bool)
  | group (span : Span) (number : Option Nat) (change : FlagChange) (body : Phrase)
  | choice (span : Span) (items : List Phrase)
  | sequence (span : Span) (items : List Phrase)
  deriving Repr

def Phrase.span : Phrase → Span
  | .literal part => part.span
  | .bracket content => content.span
  | .empty span | .setting span _ | .dot span | .mark span _ | .shorthand span _ _
  | .property span _ | .repeated span _ _ _ _ | .group span _ _ _ | .choice span _
  | .sequence span _ => span

end RadioInterrupt.Pattern
