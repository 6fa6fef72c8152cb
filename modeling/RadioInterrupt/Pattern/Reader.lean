import RadioInterrupt.Pattern.ClassReader
import RadioInterrupt.Text.Letter

/-!
Reading a text as a phrase.

The reader goes through the text once.  It keeps the groups that are open, the choices of the
innermost group that are complete, and the items of the choice in progress.
-/

namespace RadioInterrupt.Pattern.Reader

/-! ## Repetition -/

def readDecimal (spaced : Bool) (cursor : Cursor) : Except Fault Nat × Cursor :=
  let first := (cursor.takeWhile Text.isBlank false).2
  let (digits, last) := first.takeWhile Char.isDigit spaced
  let behind := (last.takeWhile Text.isBlank spaced).2
  let value := digits.foldl (fun value c => value * 10 + (c.toNat - 48)) 0
  let result : Except Fault Nat :=
    if digits.isEmpty then fail .repetitionCountEmpty (last.spanFrom first.place)
    else if value < UInt32.size then .ok value
    else fail .decimalInvalid (last.spanFrom first.place)
  (result, behind)

def readBounds (spaced : Bool) (cursor : Cursor) :
    Except Fault ((Nat × Option Nat) × Cursor) := do
  let unclosed {α : Type} (last : Cursor) : Except Fault α :=
    fail .repetitionCountUnclosed (last.spanFrom cursor.place)
  let first := cursor.advance spaced
  if first.rest.isEmpty then unclosed first
  else
    let (least, behind) := readDecimal spaced first
    match behind.rest with
    | [] => unclosed behind
    | ',' :: _ =>
        let second := behind.advance spaced
        match second.rest with
        | [] => unclosed second
        | '\x7d' :: _ => pure ((← least, none), second)
        | _ =>
            let least ← least
            let (most, last) := readDecimal spaced second
            pure ((least, some (← most)), last)
    | _ =>
        let count ← least
        pure ((count, some count), behind)

def readReluctance (cursor : Cursor) : Bool × Cursor :=
  if cursor.rest.head? = some '?' then (true, cursor.next) else (false, cursor)

/-! ## The state of the reader -/

structure Group where
  place : Nat
  number : Option Nat
  change : FlagChange
  spaced : Bool
  contentStart : Nat
  choiceStart : Nat
  items : List Phrase
  choices : List Phrase

structure State where
  cursor : Cursor
  spaced : Bool := false
  contentStart : Nat := 0
  choiceStart : Nat := 0
  items : List Phrase := []
  choices : List Phrase := []
  groups : List Group := []
  names : List (String × Span) := []
  numbered : Nat := 0

namespace State

def push (state : State) (phrase : Phrase) (cursor : Cursor) : State :=
  { state with items := phrase :: state.items, cursor }

def choice (state : State) : Phrase :=
  match state.items with
  | [] => .empty ⟨state.choiceStart, state.cursor.place⟩
  | [item] => item
  | items => .sequence ⟨state.choiceStart, state.cursor.place⟩ items.reverse

def content (state : State) : Phrase :=
  if state.choices.isEmpty then state.choice
  else .choice ⟨state.contentStart, state.cursor.place⟩ (state.choices.reverse ++ [state.choice])

def endChoice (state : State) : State :=
  let behind := state.cursor.next
  { state with
    cursor := behind
    choiceStart := behind.place
    items := []
    choices := state.choice :: state.choices }

def openGroup (state : State) (number : Option Nat) (change : FlagChange) (inside : Cursor) :
    State :=
  { state with
    cursor := inside
    spaced := (change.lookup .spaced).getD state.spaced
    contentStart := inside.place
    choiceStart := inside.place
    items := []
    choices := []
    groups :=
      { place := state.cursor.place, number, change, spaced := state.spaced
        contentStart := state.contentStart, choiceStart := state.choiceStart
        items := state.items, choices := state.choices } :: state.groups }

def openNumbered (state : State) (inside : Cursor) : State :=
  { state.openGroup (some (state.numbered + 1)) [] inside with numbered := state.numbered + 1 }

def closeGroup (state : State) : Except Fault State :=
  match state.groups with
  | [] => fail .groupUnopened state.cursor.spanChar
  | opened :: groups =>
      let behind := state.cursor.next
      .ok { state with
        cursor := behind
        spaced := opened.spaced
        contentStart := opened.contentStart
        choiceStart := opened.choiceStart
        items := .group ⟨opened.place, behind.place⟩ opened.number opened.change state.content ::
          opened.items
        choices := opened.choices
        groups }

def repeatable (state : State) : Except Fault (Phrase × List Phrase) :=
  match state.items with
  | [] | .setting _ _ :: _ => fail .repetitionMissing state.cursor.spanHere
  | item :: items => .ok (item, items)

def repeatLast (state : State) (least : Nat) (most : Option Nat) (behind : Cursor) :
    Except Fault State := do
  let (item, items) ← state.repeatable
  let (reluctant, cursor) := readReluctance behind
  let phrase := .repeated ⟨item.span.start, cursor.place⟩ item least most reluctant
  pure { state with items := phrase :: items, cursor }

def repeatCounted (state : State) : Except Fault State := do
  let _ ← state.repeatable
  let ((least, most), last) ← readBounds state.spaced state.cursor
  if last.rest.head? ≠ some '\x7d' then
    fail .repetitionCountUnclosed (last.spanFrom state.cursor.place)
  else
    let repeated ← state.repeatLast least most (last.advance state.spaced)
    if most.any (· < least) then
      fail .repetitionCountInvalid (repeated.cursor.spanFrom state.cursor.place)
    else pure repeated

end State

/-! ## Groups -/

/-- Reads flags up to the colon or parenthesis behind them.  `seen` holds the letters and hyphens so
far with their places, the latest one first. -/
def readFlags : List Char → Nat → List (Char × Nat) → FlagChange →
    Except Fault (FlagChange × Cursor)
  | [], place, _, _ => fail .flagUnexpectedEnd (.at place)
  | c :: rest, place, seen, change =>
      if c = ':' || c = ')' then
        match seen with
        | ('-', hyphen) :: _ => fail .flagDanglingNegation (.char hyphen)
        | _ => .ok (change.reverse, ⟨c :: rest, place⟩)
      else
        let earlier := (seen.lookup c).map Span.char
        let next := (c, place) :: seen
        if c = '-' then
          match earlier with
          | some span => fail (.flagRepeatedNegation span) (.char place)
          | none => readFlags rest (place + 1) next change
        else
          match Flag.ofLetter? c, earlier with
          | none, _ => fail .flagUnrecognized (.char place)
          | _, some span => fail (.flagDuplicate span) (.char place)
          | some flag, none =>
              readFlags rest (place + 1) next ((flag, (seen.lookup '-').isNone) :: change)

def readName (names : List (String × Span)) (cursor : Cursor) :
    Except Fault ((String × Span) × Cursor) :=
  let isFirst (c : Char) : Bool := c = '_' || Text.isLetter c
  let isInside (c : Char) : Bool :=
    isFirst c || Text.isNumeral c || c = '.' || c = '[' || c = ']'
  let (name, last) := cursor.takeWhile isInside false
  let span := last.spanFrom cursor.place
  match name, last.rest with
  | c :: _, rest =>
      if !isFirst c then fail .groupNameInvalid cursor.spanChar
      else
        match rest with
        | [] => fail .groupNameUnexpectedEnd last.spanHere
        | '>' :: _ =>
            match names.lookup (String.ofList name) with
            | some earlier => fail (.groupNameDuplicate earlier) span
            | none => .ok ((String.ofList name, span), last.next)
        | _ => fail .groupNameInvalid last.spanChar
  | [], [] => fail .groupNameUnexpectedEnd last.spanHere
  | [], '>' :: _ => fail .groupNameEmpty (.at cursor.place)
  | [], _ => fail .groupNameInvalid cursor.spanChar

def readGroup (state : State) : Except Fault State := do
  let start := state.cursor.place
  let inside := state.cursor.advance state.spaced
  let lookAround := ["?=", "?!", "?<=", "?<!"].findSome? (inside.eat? ·)
  match lookAround, inside.eat? "?P<" <|> inside.eat? "?<", inside.eat? "?" with
  | some behind, _, _ => fail .lookAround (behind.spanFrom start)
  | none, some first, _ =>
      let (name, behind) ← readName state.names first
      pure { state.openNumbered behind with names := name :: state.names }
  | none, none, some first =>
      if first.rest.isEmpty then fail .groupUnclosed (.char start)
      else
        let (change, last) ← readFlags first.rest first.place [] []
        if last.rest.head? = some ')' then
          if change.isEmpty then fail .repetitionMissing inside.spanHere
          else
            let behind := last.next
            pure { state.push (.setting (behind.spanFrom start) change) behind with
              spaced := (change.lookup .spaced).getD state.spaced }
        else pure (state.openGroup none change last.next)
  | none, none, none => pure (state.openNumbered inside)

/-! ## The whole text -/

def step (state : State) : Except Fault State := do
  let cursor := state.cursor
  match cursor.rest with
  | [] => pure state
  | '(' :: _ => readGroup state
  | ')' :: _ => state.closeGroup
  | '|' :: _ => pure state.endChoice
  | '[' :: rest =>
      let (cls, inside) ← openClass state.spaced cursor
      let (content, behind) ← readClass state.spaced (rest.length + 1) cls inside
      pure (state.push (.bracket content) behind)
  | '?' :: _ => state.repeatLast 0 (some 1) cursor.next
  | '*' :: _ => state.repeatLast 0 none cursor.next
  | '+' :: _ => state.repeatLast 1 none cursor.next
  | '\x7b' :: _ => state.repeatCounted
  | '\\' :: _ =>
      let (phrase, behind) ← readEscape state.spaced cursor
      pure (state.push phrase behind)
  | '.' :: _ => pure (state.push (.dot cursor.spanChar) cursor.next)
  | '^' :: _ => pure (state.push (.mark cursor.spanChar .lineStart) cursor.next)
  | '$' :: _ => pure (state.push (.mark cursor.spanChar .lineEnd) cursor.next)
  | c :: _ => pure (state.push (.literal ⟨c, cursor.spanChar, false⟩) cursor.next)

/-- Reads to the end of the text.  Every step moves the cursor, so the number of characters bounds
the steps. -/
def run : Nat → State → Except Fault State
  | 0, state => .ok state
  | steps + 1, state =>
      let state := { state with cursor := state.cursor.skip state.spaced }
      if state.cursor.rest.isEmpty then .ok state
      else step state >>= run steps

end Reader

def Phrase.ofText (text : String) : Except Fault Phrase := do
  let state ← Reader.run (text.length + 1) { cursor := .ofText text }
  match state.groups with
  | [] => pure state.content
  | innermost :: _ => fail .groupUnclosed (.char innermost.place)

end RadioInterrupt.Pattern
