import RadioInterrupt.Handler
import RadioInterrupt.SlotTable

/-!
Sessions with one table of handlers, whose handlers report to a plain list.
-/

namespace RadioInterrupt.Session

structure Table (n : Nat) where
  table : SlotTable Handler n := ∅
  bench : Bench := {}

namespace Table

inductive Step (n : Nat) where
  | insert (index : Nat) (handler : Handler)
  | load (handlers : Vector (Option Handler) n)
  | isSet (index : Nat)
  | run (index : Nat)
  | describe

inductive Answer where
  | inserted (result : Except OutOfRange Registration)
  | loaded
  | isSet (answer : Bool)
  | noHandler
  | ran (notes : List Note) (reports : List Report)
  | text (line lines : String)

def step {n : Nat} (session : Table n) : Step n → Answer × Table n
  | .insert index handler =>
      match session.table.insert index handler with
      | .error fault => (.inserted (.error fault), session)
      | .ok (registration, table) => (.inserted (.ok registration), { session with table })
  | .load handlers => (.loaded, { session with table := session.table.load handlers })
  | .isSet index => (.isSet (session.table.isSet index), session)
  | .run index =>
      match session.table.get? index with
      | none => (.noHandler, session)
      | some handler =>
          let (routine, bench) := handler.start { session.bench with notes := [] }
          let (reports, bench) := routine.run ([] : List Report) bench
          (.ran bench.notes reports, ⟨session.table.modify index Handler.advance, bench⟩)
  | .describe => (.text session.table.describe session.table.describeLines, session)

end Table

end RadioInterrupt.Session
