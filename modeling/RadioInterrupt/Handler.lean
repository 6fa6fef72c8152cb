import RadioInterrupt.Routine

/-!
Handlers: what the tables hold.

A handler is started once for each event that is dispatched to it.  Starting gives the routine of
that run and may act on the chip that the handler belongs to; `Handler.advance` counts the run.
-/

namespace RadioInterrupt

inductive Handler where
  /-- A handler whose run number `n` performs `behaviour n`; runs are counted from zero. -/
  | routine (behaviour : Nat → Routine) (runs : Nat)
  /-- Services the oldest cause that a chip has latched. -/
  | chipLine (chip : Nat)
  /-- Puts a chip into standby and reports what the expired timer was for. -/
  | chipTimer (chip : Nat) (report : Report)

namespace Handler

def start (handler : Handler) (bench : Bench) : Routine × Bench :=
  match handler with
  | .routine behaviour runs => (behaviour runs, bench)
  | .chipLine number =>
      match (bench.chips number).service with
      | none => (.done, bench.say [.spurious])
      | some (report, chip) => (.report report .done, bench.setChip number chip)
  | .chipTimer number report =>
      (.report report .done, bench.setChip number (bench.chips number).standby)

def advance : Handler → Handler
  | .routine behaviour runs => .routine behaviour (runs + 1)
  | .chipLine number => .chipLine number
  | .chipTimer number report => .chipTimer number report

@[simp] theorem start_routine (behaviour : Nat → Routine) (runs : Nat) (bench : Bench) :
    (routine behaviour runs).start bench = (behaviour runs, bench) := rfl

@[simp] theorem advance_routine (behaviour : Nat → Routine) (runs : Nat) :
    (routine behaviour runs).advance = routine behaviour (runs + 1) := rfl

end Handler

end RadioInterrupt
