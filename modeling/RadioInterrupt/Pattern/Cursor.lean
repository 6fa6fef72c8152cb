import RadioInterrupt.Pattern.Phrase
import RadioInterrupt.Text.Blank

/-!
A place in a text that is being read as a pattern, with what is left of the text.

In spaced patterns blanks and comments stand for nothing, so most steps skip them.
-/

namespace RadioInterrupt.Pattern

structure Cursor where
  rest : List Char
  place : Nat := 0
  deriving DecidableEq, Repr

namespace Cursor

def ofText (text : String) : Cursor :=
  { rest := text.toList }

def blanks : Bool → List Char → Nat × List Char
  | _, [] => (0, [])
  | true, c :: rest =>
      let (count, left) := blanks (c ≠ '\n') rest
      (count + 1, left)
  | false, c :: rest =>
      if Text.isBlank c || c = '#' then
        let (count, left) := blanks (c = '#') rest
        (count + 1, left)
      else (0, c :: rest)

def skip (spaced : Bool) (cursor : Cursor) : Cursor :=
  if spaced then
    let (count, rest) := blanks false cursor.rest
    ⟨rest, cursor.place + count⟩
  else cursor

def next (cursor : Cursor) : Cursor :=
  match cursor.rest with
  | [] => cursor
  | _ :: rest => ⟨rest, cursor.place + 1⟩

def advance (spaced : Bool) (cursor : Cursor) : Cursor :=
  cursor.next.skip spaced

/-- The character behind the next one.  In spaced patterns it is the first one that is not blank,
also where it stands in a comment. -/
def peek (spaced : Bool) (cursor : Cursor) : Option Char :=
  let behind := cursor.rest.drop 1
  if spaced then
    match behind.dropWhile Text.isBlank with
    | '#' :: comment => (comment.dropWhile Text.isBlank).head? <|> behind.head?
    | rest => rest.head? <|> behind.head?
  else behind.head?

def eat? (text : String) (cursor : Cursor) : Option Cursor :=
  let letters := text.toList
  if letters.isPrefixOf cursor.rest then
    some ⟨cursor.rest.drop letters.length, cursor.place + letters.length⟩
  else none

def takeUpTo (kind : Char → Bool) (spaced : Bool) : Nat → Cursor → List Char × Cursor
  | 0, cursor => ([], cursor)
  | limit + 1, cursor =>
      match cursor.rest with
      | [] => ([], cursor)
      | c :: _ =>
          if kind c then
            let (taken, last) := takeUpTo kind spaced limit (cursor.advance spaced)
            (c :: taken, last)
          else ([], cursor)

def takeWhile (kind : Char → Bool) (spaced : Bool) (cursor : Cursor) : List Char × Cursor :=
  takeUpTo kind spaced cursor.rest.length cursor

def spanFrom (start : Nat) (cursor : Cursor) : Span := ⟨start, cursor.place⟩

def spanChar (cursor : Cursor) : Span := .char cursor.place

def spanHere (cursor : Cursor) : Span := .at cursor.place

end Cursor

end RadioInterrupt.Pattern
