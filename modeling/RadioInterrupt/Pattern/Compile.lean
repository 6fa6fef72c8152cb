import RadioInterrupt.Pattern.Machine
import RadioInterrupt.Pattern.Meaning
import RadioInterrupt.Pattern.Nesting
import RadioInterrupt.Pattern.Openings
import RadioInterrupt.Pattern.Reader

/-!
From texts to patterns.
-/

namespace RadioInterrupt.Pattern

/-- The pattern that a text stands for, or why there is none.  A text must be well formed as a whole
before any of its parts is given a meaning.  A search for words needs no machine, so that it is no
fault if none can be built. -/
def ofText (text : String) : Except Fault Pattern := do
  let phrase ← Phrase.ofText text
  phrase.checkDepth
  let (pattern, _) ← phrase.meaning {}
  match Machine.check pattern with
  | .ok _ => pure pattern
  | .error fault => if pattern.isWordSearch then pure pattern else throw fault

end RadioInterrupt.Pattern
