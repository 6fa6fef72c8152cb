import RadioInterrupt.Driver

/-!
Scripted handlers and a scripted driver.

A script lists what each run of a handler does.  A scripted driver makes a fixed list of requests,
notes every call, and fails the calls that it is told to fail.
-/

namespace RadioInterrupt

inductive Action where
  | report (made : Report)
  | look
  | post (event : Event)
  deriving DecidableEq, Repr

structure Script where
  id : String
  runs : List (List Action)
  /-- Start again after the last run. -/
  cycle : Bool := false
  deriving DecidableEq, Repr

namespace Script

def actions (script : Script) (n : Nat) : List Action :=
  let index := if script.cycle then n % script.runs.length else n
  script.runs.getD index []

def perform : List Action → Routine
  | [] => .done
  | .report made :: rest => .report made (perform rest)
  | .look :: rest => .look fun seen => .note (.looked seen) (perform rest)
  | .post event :: rest => .post 0 event fun answer => .note (.posted answer) (perform rest)

def behaviour (script : Script) (n : Nat) : Routine :=
  .note (.ran script.id (n + 1)) (perform (script.actions n))

def handler (script : Script) : Handler :=
  .routine script.behaviour 0

end Script

/-- A driver that follows a script.  Failures are looked up by the name of the call. -/
structure ScriptedDriver where
  requests : List Request := []
  failures : String → Option String := fun _ => none

namespace ScriptedDriver

def setFailure (driver : ScriptedDriver) (name : String) (failure : Option String) :
    ScriptedDriver :=
  { driver with failures := fun other => if other = name then failure else driver.failures other }

def result (driver : ScriptedDriver) (name : String) : Except String Unit :=
  match driver.failures name with
  | some error => .error error
  | none => .ok ()

def noteAnswers (answers : List RequestAnswer) (bench : Bench) : Bench :=
  answers.foldl (fun bench answer => bench.note (.registered answer)) bench

instance : Driver ScriptedDriver Unit String where
  requests driver _ := driver.requests
  bringUp driver _ answers bench :=
    (driver.result "init", driver, (noteAnswers answers bench).note .broughtUp)
  perform driver command bench :=
    (driver.result command.name, driver, bench.note (.commanded command))

end ScriptedDriver

end RadioInterrupt
