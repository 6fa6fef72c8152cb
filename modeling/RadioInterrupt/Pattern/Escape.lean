import RadioInterrupt.Pattern.Cursor
import RadioInterrupt.Pattern.Fault

/-!
Reading escapes: a backslash with what it announces.
-/

namespace RadioInterrupt.Pattern.Reader

/-! ## Codes of characters -/

def isHexDigit (c : Char) : Bool :=
  c.isDigit || ('a' ≤ c && c ≤ 'f') || ('A' ≤ c && c ≤ 'F')

def hexValue (digits : List Char) : Nat :=
  digits.foldl (fun value c =>
    value * 16 +
      if c.isDigit then c.toNat - 48 else if c.isUpper then c.toNat - 55 else c.toNat - 87) 0

def charOfHex (digits : List Char) (span : Span) : Except Fault Char :=
  let code := hexValue digits
  if code < 0xD800 || (0xE000 ≤ code && code < 0x110000) then .ok (Char.ofNat code)
  else fail .escapeHexInvalid span

def readBracedCode (spaced : Bool) (brace : Cursor) : Except Fault (Char × Cursor) :=
  let (digits, last) := (brace.advance spaced).takeWhile isHexDigit spaced
  match last.rest with
  | [] => fail .escapeUnexpectedEnd (last.spanFrom brace.place)
  | '\x7d' :: _ =>
      let behind := last.advance spaced
      if digits.isEmpty then fail .escapeHexEmpty (behind.spanFrom brace.place)
      else (charOfHex digits (last.spanFrom (brace.place + 1))).map fun c => (c, behind)
  | _ => fail .escapeHexInvalidDigit last.spanChar

def readCode (spaced : Bool) (width start : Nat) (letter : Cursor) :
    Except Fault (Literal × Cursor) :=
  let first := letter.advance spaced
  match first.rest with
  | [] => fail .escapeUnexpectedEnd first.spanHere
  | '\x7b' :: _ => do
      let (c, behind) ← readBracedCode spaced first
      pure (⟨c, behind.spanFrom start, false⟩, behind)
  | _ => do
      let (digits, last) := first.takeUpTo isHexDigit spaced width
      if digits.length < width then
        if last.rest.isEmpty then fail .escapeUnexpectedEnd last.spanHere
        else fail .escapeHexInvalidDigit last.spanChar
      else
        let c ← charOfHex digits (last.spanFrom first.place)
        pure (⟨c, last.spanFrom start, width = 2⟩, last)

/-! ## Properties and words -/

def readProperty (spaced : Bool) (start : Nat) (letter : Cursor) :
    Except Fault (Phrase × Cursor) := do
  let first := letter.advance spaced
  let (name, last) ← match first.rest with
    | [] => fail .escapeUnexpectedEnd first.spanHere
    | '\x7b' :: _ =>
        let (name, last) := (first.advance spaced).takeWhile (· ≠ '\x7d') spaced
        if last.rest.isEmpty then fail .escapeUnexpectedEnd last.spanHere
        else pure (name, last.next)
    | '\\' :: _ => fail .propertyInvalid first.spanChar
    | c :: _ => pure ([c], first.advance spaced)
  pure (.property (last.spanFrom start) (String.ofList name), last)

def WordEdge.ofName? : String → Option WordEdge
  | "start" => some .start
  | "end" => some .stop
  | "start-half" => some .startHalf
  | "end-half" => some .stopHalf
  | _ => none

/-- Reads what a brace behind a word boundary says about it; none if the brace says how often the
boundary is repeated. -/
def readWordEdge? (spaced : Bool) (start : Nat) (brace : Cursor) :
    Except Fault (Option (WordEdge × Cursor)) :=
  let isName (c : Char) : Bool := c.isAlpha || c = '-'
  let first := brace.advance spaced
  match first.rest with
  | [] => fail .wordBoundaryUnexpectedEnd (first.spanFrom start)
  | c :: _ =>
      if isName c then
        let (name, last) := first.takeWhile isName spaced
        if last.rest.head? = some '\x7d' then
          match WordEdge.ofName? (String.ofList name) with
          | some edge => pure (some (edge, last.next))
          | none => fail .wordBoundaryUnrecognized (last.spanFrom first.place)
        else fail .wordBoundaryUnclosed (last.spanFrom brace.place)
      else pure none

/-! ## One letter -/

def shorthandOfLetter? : Char → Option (Bool × CharSet)
  | 'd' => some (false, .digit)
  | 'D' => some (true, .digit)
  | 's' => some (false, .blank)
  | 'S' => some (true, .blank)
  | 'w' => some (false, .word)
  | 'W' => some (true, .word)
  | _ => none

def markOfLetter? : Char → Option Mark
  | 'A' => some .textStart
  | 'z' => some .textEnd
  | 'b' => some (.word .boundary)
  | 'B' => some (.word .notBoundary)
  | '<' => some (.word .start)
  | '>' => some (.word .stop)
  | _ => none

def charOfLetter? : Char → Option Char
  | 'a' => some (Char.ofNat 7)
  | 'f' => some (Char.ofNat 12)
  | 't' => some '\t'
  | 'n' => some '\n'
  | 'r' => some '\r'
  | 'v' => some (Char.ofNat 11)
  | c => if c.toNat < 128 && !c.isAlphanum && c ≠ '<' && c ≠ '>' then some c else none

def phraseOfLetter (span : Span) (c : Char) : Except Fault Phrase :=
  match charOfLetter? c, shorthandOfLetter? c, markOfLetter? c with
  | some c, _, _ => .ok (.literal ⟨c, span, false⟩)
  | none, some (negated, set), _ => .ok (.shorthand span negated set)
  | none, none, some mark => .ok (.mark span mark)
  | none, none, none =>
      fail (if c.isDigit then .backreference else .escapeUnrecognized) span

def readEscape (spaced : Bool) (cursor : Cursor) : Except Fault (Phrase × Cursor) :=
  let start := cursor.place
  let letter := cursor.next
  let behind := letter.next
  let code (width : Nat) := (readCode spaced width start letter).map fun (literal, last) =>
    (Phrase.literal literal, last)
  match letter.rest with
  | [] => fail .escapeUnexpectedEnd (letter.spanFrom start)
  | 'x' :: _ => code 2
  | 'u' :: _ => code 4
  | 'U' :: _ => code 8
  | 'p' :: _ | 'P' :: _ => readProperty spaced start letter
  | 'b' :: '\x7b' :: _ => do
      match ← readWordEdge? spaced start behind with
      | some (edge, last) => pure (.mark (last.spanFrom start) (.word edge), last)
      | none => pure (.mark (behind.spanFrom start) (.word .boundary), behind)
  | c :: _ => (phraseOfLetter (behind.spanFrom start) c).map fun phrase => (phrase, behind)

end RadioInterrupt.Pattern.Reader
