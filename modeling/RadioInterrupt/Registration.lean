/-!
Answers to a request to store a handler.
-/

namespace RadioInterrupt

inductive Registration where
  | registered
  | replaced
  deriving DecidableEq, Repr

def Registration.name : Registration → String
  | .registered => "Registered"
  | .replaced => "Replaced"

structure OutOfRange where
  index : Nat
  size : Nat
  deriving DecidableEq, Repr

def OutOfRange.message (fault : OutOfRange) : String :=
  "slot " ++ toString fault.index ++ " out of range (table has " ++ toString fault.size ++ " slots)"

/-- The answer to one request; loading a whole table always succeeds. -/
inductive RequestAnswer where
  | stored (registration : Registration)
  | refused (fault : OutOfRange)
  | loaded
  deriving DecidableEq, Repr

end RadioInterrupt
