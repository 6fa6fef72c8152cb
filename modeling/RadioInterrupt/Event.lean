/-!
Events that a board delivers to the dispatcher, and the slots that they are dispatched to.

A board has six digital lines and a driver has three timers.  The chip raises every done condition
on one interrupt, so lines 0 and 1 share dispatch slot 0, and slot 1 is never dispatched
(`Event.slot_ne_line_one`).
-/

namespace RadioInterrupt

inductive Timer where
  | timer1
  | timer2
  | timer3
  deriving DecidableEq, Repr

inductive Event where
  | line (pin : Fin 6)
  | timer (id : Timer)
  deriving DecidableEq, Repr

inductive Slot where
  | line (index : Fin 6)
  | timer (id : Timer)
  deriving DecidableEq, Repr

instance sixLines : @NeZero Nat Zero.ofOfNat0 6 :=
  ⟨by decide⟩

namespace Timer

def all : List Timer := [.timer1, .timer2, .timer3]

def index : Timer → Fin 3
  | .timer1 => 0
  | .timer2 => 1
  | .timer3 => 2

def name : Timer → String
  | .timer1 => "Timer1"
  | .timer2 => "Timer2"
  | .timer3 => "Timer3"

def label : Timer → String
  | .timer1 => "TIMER1"
  | .timer2 => "TIMER2"
  | .timer3 => "TIMER3"

theorem index_injective {a b : Timer} (h : a.index = b.index) : a = b := by
  revert h
  cases a <;> cases b <;> decide

theorem mem_all (t : Timer) : t ∈ all := by
  cases t <;> decide

end Timer

namespace Event

def all : List Event :=
  [.line 0, .line 1, .line 2, .line 3, .line 4, .line 5] ++ Timer.all.map .timer

/-- Lines 0 and 1 share slot 0; every other event has a slot of its own. -/
def slot : Event → Slot
  | .line pin => if pin = 1 then .line 0 else .line pin
  | .timer t => .timer t

def isLine : Event → Bool
  | .line _ => true
  | .timer _ => false

def name : Event → String
  | .line pin => "Dio" ++ toString pin.val
  | .timer t => t.name

def label : Event → String
  | .line pin => "DIO" ++ toString pin.val
  | .timer t => t.label

def toJson (event : Event) : String :=
  "\"" ++ event.name ++ "\""

theorem mem_all (e : Event) : e ∈ all := by
  cases e with
  | line pin => revert pin; decide
  | timer t => cases t <;> decide

@[simp] theorem slot_timer (t : Timer) : (timer t).slot = .timer t := rfl

theorem slot_line_of_ne {pin : Fin 6} (h : pin ≠ 1) : (line pin).slot = .line pin := by
  simp [slot, h]

theorem slot_ne_line_one (e : Event) : e.slot ≠ .line 1 := by
  cases e with
  | line pin => revert pin; decide
  | timer t => exact nofun

end Event

end RadioInterrupt
