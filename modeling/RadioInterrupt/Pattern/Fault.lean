import RadioInterrupt.Pattern.Phrase

/-!
Why a text is no pattern that can be matched, and how that is shown.

Most faults have a cause and a part of the text where they lie; some causes have a second part, the
earlier one that they clash with.  Such a fault is shown with the text, with carets below the parts.
-/

namespace RadioInterrupt.Pattern

inductive Cause where
  | classEscapeInvalid
  | classRangeInvalid
  | classRangeLiteral
  | classUnclosed
  | decimalInvalid
  | escapeHexEmpty
  | escapeHexInvalid
  | escapeHexInvalidDigit
  | escapeUnexpectedEnd
  | escapeUnrecognized
  | flagDanglingNegation
  | flagDuplicate (earlier : Span)
  | flagRepeatedNegation (earlier : Span)
  | flagUnexpectedEnd
  | flagUnrecognized
  | groupNameDuplicate (earlier : Span)
  | groupNameEmpty
  | groupNameInvalid
  | groupNameUnexpectedEnd
  | groupUnclosed
  | groupUnopened
  | nestedTooDeep (limit : Nat)
  | repetitionCountEmpty
  | repetitionCountInvalid
  | repetitionCountUnclosed
  | repetitionMissing
  | wordBoundaryUnclosed
  | wordBoundaryUnrecognized
  | wordBoundaryUnexpectedEnd
  | propertyInvalid
  | backreference
  | lookAround
  | unicodeNotAllowed
  | invalidBytes
  | propertyNotFound
  | propertyValueNotFound
  | shorthandUnavailable
  | caseUnavailable
  deriving DecidableEq, Repr

namespace Cause

def text : Cause → String
  | .classEscapeInvalid => "invalid escape sequence found in character class"
  | .classRangeInvalid => "invalid character class range, the start must be <= the end"
  | .classRangeLiteral => "invalid range boundary, must be a literal"
  | .classUnclosed => "unclosed character class"
  | .decimalInvalid => "decimal literal invalid"
  | .escapeHexEmpty => "hexadecimal literal empty"
  | .escapeHexInvalid => "hexadecimal literal is not a Unicode scalar value"
  | .escapeHexInvalidDigit => "invalid hexadecimal digit"
  | .escapeUnexpectedEnd => "incomplete escape sequence, reached end of pattern prematurely"
  | .escapeUnrecognized => "unrecognized escape sequence"
  | .flagDanglingNegation => "dangling flag negation operator"
  | .flagDuplicate _ => "duplicate flag"
  | .flagRepeatedNegation _ => "flag negation operator repeated"
  | .flagUnexpectedEnd => "expected flag but got end of regex"
  | .flagUnrecognized => "unrecognized flag"
  | .groupNameDuplicate _ => "duplicate capture group name"
  | .groupNameEmpty => "empty capture group name"
  | .groupNameInvalid => "invalid capture group character"
  | .groupNameUnexpectedEnd => "unclosed capture group name"
  | .groupUnclosed => "unclosed group"
  | .groupUnopened => "unopened group"
  | .nestedTooDeep limit =>
      "exceed the maximum number of nested parentheses/brackets (" ++ toString limit ++ ")"
  | .repetitionCountEmpty => "repetition quantifier expects a valid decimal"
  | .repetitionCountInvalid => "invalid repetition count range, the start must be <= the end"
  | .repetitionCountUnclosed => "unclosed counted repetition"
  | .repetitionMissing => "repetition operator missing expression"
  | .wordBoundaryUnclosed =>
      "special word boundary assertion is either unclosed or contains an invalid character"
  | .wordBoundaryUnrecognized =>
      "unrecognized special word boundary assertion, valid choices are: start, end, start-half " ++
        "or end-half"
  | .wordBoundaryUnexpectedEnd =>
      "found either the beginning of a special word boundary or a bounded repetition on a \\b " ++
        "with an opening brace, but no closing brace"
  | .propertyInvalid => "invalid Unicode character class"
  | .backreference => "backreferences are not supported"
  | .lookAround => "look-around, including look-ahead and look-behind, is not supported"
  | .unicodeNotAllowed => "Unicode not allowed here"
  | .invalidBytes => "pattern can match invalid UTF-8"
  | .propertyNotFound => "Unicode property not found"
  | .propertyValueNotFound => "Unicode property value not found"
  | .shorthandUnavailable =>
      "Unicode-aware Perl class not found (make sure the unicode-perl feature is enabled)"
  | .caseUnavailable =>
      "Unicode-aware case insensitivity matching is not available (make sure the unicode-case " ++
        "feature is enabled)"

def earlier? : Cause → Option Span
  | .flagDuplicate earlier | .flagRepeatedNegation earlier | .groupNameDuplicate earlier =>
      some earlier
  | _ => none

end Cause

inductive Fault where
  | misread (cause : Cause) (span : Span)
  /-- The pattern asks for the words of all scripts, which are not known. -/
  | unsupportedWords
  | tooLarge (limit : Nat)
  deriving DecidableEq, Repr

def fail {α : Type} (cause : Cause) (span : Span) : Except Fault α :=
  .error (.misread cause span)

/-! ## Places as lines and columns -/

def position (text : List Char) (place : Nat) : Nat × Nat :=
  let before := text.take place
  (before.count '\n', (before.reverse.takeWhile (· ≠ '\n')).length)

def linesOf (text : String) : List String :=
  let withoutReturn (line : String) : String :=
    let letters := line.toList
    if letters.getLast? = some '\r' then String.ofList letters.dropLast else line
  let lines := text.splitOn "\n"
  let last := lines.getLast?.getD ""
  lines.dropLast.map withoutReturn ++ if last = "" then [] else [last]

def carets : Nat → List (Nat × Nat) → String
  | _, [] => ""
  | column, (start, stop) :: rest =>
      let width := max 1 (stop - start)
      String.ofList (List.replicate (start - column) ' ' ++ List.replicate width '^') ++
        carets (max column start + width) rest

namespace Fault

def spans (cause : Cause) (span : Span) : List Span :=
  match cause.earlier? with
  | none => [span]
  | some earlier => if earlier.start ≤ span.start then [earlier, span] else [span, earlier]

def markedLines (text : String) (spans : List Span) : List String :=
  let letters := text.toList
  let lines := linesOf text
  let count := lines.length + if letters.getLast? = some '\n' then 1 else 0
  let width := (toString count).length
  let spaces (n : Nat) : String := String.ofList (List.replicate n ' ')
  let margin (number : Nat) : String :=
    if count ≤ 1 then spaces 4
    else
      let digits := toString number
      spaces (width - digits.length) ++ digits ++ ": "
  lines.zipIdx.flatMap fun (line, i) =>
    let columns := spans.filterMap fun span =>
      let start := position letters span.start
      let stop := position letters span.stop
      if start.1 = i && stop.1 = i then some (start.2, stop.2) else none
    let marks := spaces (if count ≤ 1 then 4 else width + 2) ++ carets 0 columns
    (margin (i + 1) ++ line) :: if columns.isEmpty then [] else [marks]

def longSpans (text : String) (spans : List Span) : List String :=
  spans.filterMap fun span =>
    let start := position text.toList span.start
    let stop := position text.toList span.stop
    if start.1 = stop.1 then none
    else
      some ("on line " ++ toString (start.1 + 1) ++ " (column " ++ toString (start.2 + 1) ++
        ") through line " ++ toString (stop.1 + 1) ++ " (column " ++ toString stop.2 ++ ")")

def describe (fault : Fault) (text : String) : String :=
  match fault with
  | .unsupportedWords => "error building NFA"
  | .tooLarge limit => "Compiled regex exceeds size limit of " ++ toString limit ++ " bytes."
  | .misread cause span =>
      let spans := spans cause span
      let lines := markedLines text spans
      let divider := String.ofList (List.replicate 79 '~')
      let shown :=
        if text.toList.contains '\n' then [divider] ++ lines ++ [divider] ++ longSpans text spans
        else lines
      String.intercalate "\n"
        (["regex parse error:"] ++ shown ++ ["error: " ++ cause.text])

end Fault

end RadioInterrupt.Pattern
