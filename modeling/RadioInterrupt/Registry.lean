import RadioInterrupt.Handler
import RadioInterrupt.SlotTable

/-!
The handler tables of a dispatcher and the requests that fill them.

A request stores the handler of one line slot or of one timer, or loads the whole table of line
handlers.  `Registry.performAll` performs a list of requests in order and collects the answers.
-/

namespace RadioInterrupt

inductive Request where
  | line (index : Nat) (handler : Handler)
  | timer (timer : Timer) (handler : Handler)
  /-- Overwrites every line slot, and clears those whose entry is none. -/
  | table (handlers : Vector (Option Handler) 6)

structure Registry where
  lines : SlotTable Handler 6 := ∅
  timers : SlotTable Handler 3 := ∅

namespace Registry

def empty : Registry := {}

def handler? (registry : Registry) : Slot → Option Handler
  | .line index => registry.lines.get? index
  | .timer timer => registry.timers.get? timer.index

def advance (registry : Registry) : Slot → Registry
  | .line index => { registry with lines := registry.lines.modify index Handler.advance }
  | .timer timer => { registry with timers := registry.timers.modify timer.index Handler.advance }

def perform (registry : Registry) : Request → RequestAnswer × Registry × List Message
  | .line index handler =>
      match registry.lines.insert index handler with
      | .error fault => (.refused fault, registry, [])
      | .ok (registration, lines) =>
          (.stored registration, { registry with lines },
            if registration = .replaced then [.lineReplaced index] else [])
  | .timer timer handler =>
      match registry.timers.insert timer.index handler with
      | .error fault => (.refused fault, registry, [])
      | .ok (registration, timers) =>
          (.stored registration, { registry with timers },
            if registration = .replaced then [.timerReplaced timer] else [])
  | .table handlers =>
      let lines := registry.lines.load handlers
      (.loaded, { registry with lines },
        (if registry.lines.isEmpty then [] else [.tableReloaded]) ++
          [.tableLoaded lines.configured])

def performAll (registry : Registry) : List Request → List RequestAnswer × Registry × List Message
  | [] => ([], registry, [])
  | request :: requests =>
      let (answer, registry, messages) := registry.perform request
      let (answers, registry, later) := registry.performAll requests
      (answer :: answers, registry, messages ++ later)

@[simp] theorem handler?_empty (slot : Slot) : empty.handler? slot = none := by
  cases slot <;> exact SlotTable.get?_empty _

@[simp] theorem performAll_nil (registry : Registry) :
    registry.performAll [] = ([], registry, []) := rfl

theorem performAll_cons (registry : Registry) (request : Request) (requests : List Request) :
    registry.performAll (request :: requests) =
      let (answer, next, messages) := registry.perform request
      let (answers, last, later) := next.performAll requests
      (answer :: answers, last, messages ++ later) := rfl

end Registry

end RadioInterrupt
