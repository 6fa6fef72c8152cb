import RadioInterrupt.Pattern.Basic
import RadioInterrupt.Pattern.Fault

/-!
What phrases stand for.

Where a pattern goes by characters of all scripts, there are no tables for their properties, their
case and their words, so that such a phrase is a fault.  Where it goes by bytes it must keep to
ASCII: a complement would hold bytes that are no characters.
-/

namespace RadioInterrupt.Pattern

structure Flags where
  ignoreCase : Bool := false
  multiLine : Bool := false
  dotMatchesNewline : Bool := false
  swapGreed : Bool := false
  unicode : Bool := true
  crlf : Bool := false
  deriving DecidableEq, Repr

namespace Flags

def set (flags : Flags) : Flag × Bool → Flags
  | (.ignoreCase, value) => { flags with ignoreCase := value }
  | (.multiLine, value) => { flags with multiLine := value }
  | (.dotMatchesNewline, value) => { flags with dotMatchesNewline := value }
  | (.swapGreed, value) => { flags with swapGreed := value }
  | (.unicode, value) => { flags with unicode := value }
  | (.crlf, value) => { flags with crlf := value }
  | (.spaced, _) => flags

def apply (flags : Flags) (change : FlagChange) : Flags :=
  change.foldl set flags

end Flags

namespace Meaning

/-! ## Sets -/

def settleSet (flags : Flags) (span : Span) (negated hasMembers : Bool) (set : CharSet) :
    Except Fault CharSet :=
  if flags.unicode then
    if flags.ignoreCase && hasMembers then fail .caseUnavailable span
    else .ok (if negated then set.complement else set)
  else if negated then fail .invalidBytes span
  else .ok (if flags.ignoreCase then set.foldCase else set)

def memberCode (flags : Flags) (part : Literal) : Except Fault Nat :=
  if flags.unicode || part.char.toNat < 128 then .ok part.char.toNat
  else if part.isByte then fail .invalidBytes part.span
  else fail .unicodeNotAllowed part.span

def shorthandSet (flags : Flags) (span : Span) (negated : Bool) (set : CharSet) :
    Except Fault CharSet :=
  if flags.unicode then fail .shorthandUnavailable span
  else if negated then fail .invalidBytes span
  else .ok set

def plainName (name : String) : String :=
  let small := name.toList.map Char.toLower
  let letters := match small with
    | 'i' :: 's' :: rest => rest
    | _ => small
  String.ofList (letters.filter fun c => c.toNat < 128 && c ≠ ' ' && c ≠ '_' && c ≠ '-')

/-- No property is known.  Three names are taken for values of a property, the others for the
properties themselves. -/
def propertyFault (flags : Flags) (span : Span) (name : String) : Fault :=
  if !flags.unicode then .misread .unicodeNotAllowed span
  else if ["cf", "sc", "lc"].contains (plainName name) then .misread .propertyValueNotFound span
  else .misread .propertyNotFound span

end Meaning

def Member.hasMembers : Member → Bool
  | .empty _ | .bracketed _ _ _ | .operation _ _ _ _ => false
  | .union _ items => items.any fun item =>
      match item with
      | .empty _ | .bracketed _ _ _ | .operation _ _ _ _ | .union _ _ => false
      | _ => true
  | _ => true

mutual

/-- The set of a member of a class.  What stands inside a bracket or on a side of an operator is
brought into its one form; a complement need not be in that form. -/
def Member.meaning (flags : Flags) : Member → Except Fault CharSet
  | .empty _ => .ok .empty
  | .literal part => do
      let code ← Meaning.memberCode flags part
      pure ⟨[⟨code, code⟩]⟩
  | .range _ first last => do
      let low ← Meaning.memberCode flags first
      let high ← Meaning.memberCode flags last
      pure ⟨[⟨low, high⟩]⟩
  | .named span negated set => Meaning.settleSet flags span negated true set
  | .shorthand span negated set => Meaning.shorthandSet flags span negated set
  | .property span name => .error (Meaning.propertyFault flags span name)
  | .bracketed span negated content => do
      let set ← content.meaning flags
      Meaning.settleSet flags span negated content.hasMembers (.ofRanges set.ranges)
  | .union _ items => (Member.meanings flags [] items).map CharSet.ofRanges
  | .operation _ operator left right => do
      let leftSet ← left.meaning flags
      let rightSet ← right.meaning flags
      let rightSet ←
        Meaning.settleSet flags right.span false right.hasMembers (.ofRanges rightSet.ranges)
      let leftSet ←
        Meaning.settleSet flags left.span false left.hasMembers (.ofRanges leftSet.ranges)
      pure (operator.apply leftSet rightSet)

def Member.meanings (flags : Flags) (found : List CharRange) :
    List Member → Except Fault (List CharRange)
  | [] => .ok found
  | item :: items => do
      let set ← item.meaning flags
      Member.meanings flags (set.ranges ++ found) items

end

namespace Meaning

/-! ## Patterns -/

def ofSet (flags : Flags) (set : CharSet) : Pattern :=
  Pattern.ofSet set !flags.unicode

def literal (flags : Flags) (part : Literal) : Except Fault Pattern :=
  let set := CharSet.single part.char
  if flags.unicode then
    if flags.ignoreCase then fail .caseUnavailable part.span else .ok (ofSet flags set)
  else if part.isByte && 128 ≤ part.char.toNat then fail .invalidBytes part.span
  else .ok (ofSet flags (if flags.ignoreCase then set.foldCase else set))

def dot (flags : Flags) (span : Span) : Except Fault Pattern :=
  if !flags.unicode then fail .invalidBytes span
  else if flags.dotMatchesNewline then .ok (ofSet flags .full)
  else
    let stops := if flags.crlf then [('\n', '\n'), ('\r', '\r')] else [('\n', '\n')]
    .ok (ofSet flags (CharSet.complement (.ofLetters stops)))

def assertionOf (flags : Flags) : Mark → Assertion
  | .lineStart => if flags.multiLine then .lineStart flags.crlf else .textStart
  | .lineEnd => if flags.multiLine then .lineEnd flags.crlf else .textEnd
  | .textStart => .textStart
  | .textEnd => .textEnd
  | .word edge => .word edge flags.unicode

end Meaning

mutual

def Phrase.meaning (flags : Flags) : Phrase → Except Fault (Pattern × Flags)
  | .empty _ => .ok (.nothing, flags)
  | .setting _ change => .ok (.nothing, flags.apply change)
  | .literal part => (Meaning.literal flags part).map fun pattern => (pattern, flags)
  | .dot span => (Meaning.dot flags span).map fun pattern => (pattern, flags)
  | .mark _ written => .ok (.assertion (Meaning.assertionOf flags written), flags)
  | .shorthand span negated set =>
      (Meaning.shorthandSet flags span negated set).map fun set => (Meaning.ofSet flags set, flags)
  | .property span name => .error (Meaning.propertyFault flags span name)
  | .bracket content => (content.meaning flags).map fun set => (Meaning.ofSet flags set, flags)
  | .repeated _ body least most reluctant => do
      let (pattern, flags) ← body.meaning flags
      pure (ofRepetition pattern least most (reluctant != flags.swapGreed), flags)
  | .group _ number change body => do
      let (pattern, _) ← body.meaning (flags.apply change)
      pure (number.elim pattern fun number => .group number pattern, flags)
  | .choice _ items => do
      let (patterns, flags) ← Phrase.meanings flags items
      pure (ofChoices patterns, flags)
  | .sequence _ items => do
      let (patterns, flags) ← Phrase.meanings flags items
      pure (ofSequence patterns, flags)

def Phrase.meanings (flags : Flags) : List Phrase → Except Fault (List Pattern × Flags)
  | [] => .ok ([], flags)
  | item :: items => do
      let (pattern, flags) ← item.meaning flags
      let (patterns, flags) ← Phrase.meanings flags items
      pure (pattern :: patterns, flags)

end

end RadioInterrupt.Pattern
