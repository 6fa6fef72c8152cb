import RadioInterrupt.Proofs.Draining
import RadioInterrupt.Proofs.Tally

/-!
# The turns of each slot

When the runs of handlers depend on nothing but their number, a dispatch is a turn of its slot: what
it finds there is decided by the turns that the slot had before, and so is how it ends.  Of a
sequence of dispatches each slot sees its own turns only, and sequences that give every slot as many
turns are permutations of each other, turn by turn.  What does not depend on the order of turns,
as the counters, does not depend on how the slots take them.
-/

namespace RadioInterrupt

/-! ## Handlers that know only their runs -/

/-- What a run of the handler reports depends on the number of the run alone. -/
def Handler.Determined (handler : Handler) : Prop :=
  ∀ (runs : Nat) (recorder other : Recorder) (bench benchOther : Bench),
    (handler.after runs).reports other benchOther = (handler.after runs).reports recorder bench

theorem Handler.Determined.advance {handler : Handler} (h : handler.Determined) :
    handler.advance.Determined := by
  intro runs
  rw [after_advance]
  exact h (runs + 1)

namespace Script

theorem reports_perform (actions : List Action) (recorder other : Recorder)
    (bench benchOther : Bench) :
    (perform actions).reports other benchOther = (perform actions).reports recorder bench := by
  induction actions generalizing recorder other bench benchOther with
  | nil => rfl
  | cons action actions ih =>
      cases action with
      | report made =>
          rw [perform, Routine.reports_report, Routine.reports_report, ih]
      | look | post event => exact ih _ _ _ _

theorem determined (script : Script) (past : Nat) : (script.handler.after past).Determined :=
  fun _ _ _ _ _ => reports_perform _ _ _ _ _

end Script

def Dispatcher.Determined (dispatcher : Dispatcher) : Prop :=
  ∀ slot handler, dispatcher.handler? slot = some handler → handler.Determined

theorem Dispatcher.Determined.dispatch {dispatcher : Dispatcher} (h : dispatcher.Determined)
    (event : Event) (bench : Bench) : (dispatcher.dispatch event bench).dispatcher.Determined := by
  intro slot handler found
  rw [handler?_dispatch] at found
  split at found
  · obtain ⟨earlier, held, rfl⟩ := Option.map_eq_some_iff.mp found
    exact (h slot earlier held).advance
  · exact h slot handler found

/-! ## Dispatches that count alike -/

theorem Event.isLine_of_slot_eq {event other : Event} (h : other.slot = event.slot) :
    other.isLine = event.isLine := by
  cases event with
  | line pin =>
      obtain ⟨index, slot⟩ := slot_line pin
      cases other with
      | line pinOther => rfl
      | timer timer =>
          rw [slot] at h
          cases h
  | timer timer =>
      cases other with
      | line pinOther =>
          obtain ⟨index, slot⟩ := slot_line pinOther
          rw [slot] at h
          cases h
      | timer timerOther => rfl

def Unconfigured.nameless : Except Unconfigured Outcome → Except Nat Outcome
  | .ok outcome => .ok outcome
  | .error error => .error error.slot

theorem Event.nameless_unhandled {event other : Event} (h : other.slot = event.slot) :
    Unconfigured.nameless other.unhandled = Unconfigured.nameless event.unhandled := by
  rw [unhandled, unhandled, h]
  cases event.slot <;> rfl

namespace Dispatched

structure Alike (made other : Dispatched) : Prop where
  slot : other.event.slot = made.event.slot
  handler : other.handler = made.handler
  reports : other.reports = made.reports
  room : other.buffer.map List.length = made.buffer.map List.length

variable {made other : Dispatched}

theorem Coherent.nameless_result (h : made.Coherent) (hother : other.Coherent)
    (alike : made.Alike other) :
    Unconfigured.nameless other.result = Unconfigured.nameless made.result := by
  rw [h.result, hother.result, alike.handler, alike.reports]
  cases made.handler with
  | none => exact Event.nameless_unhandled alike.slot
  | some handler => rfl

theorem endedBusy_of_nameless
    (h : Unconfigured.nameless other.result = Unconfigured.nameless made.result) :
    other.endedBusy = made.endedBusy := by
  rw [endedBusy, endedBusy]
  generalize made.result = result at h
  generalize other.result = resultOther at h
  cases result with
  | error error =>
      cases resultOther with
      | error errorOther => rfl
      | ok outcome => cases h
  | ok outcome =>
      cases resultOther with
      | error errorOther => cases h
      | ok outcomeOther => rw [Except.ok.inj h]

theorem Alike.truncated (h : made.Alike other) : other.truncated = made.truncated := by
  have accepted : other.accepted = made.accepted := by
    rw [Dispatched.accepted, Dispatched.accepted, h.reports]
  have shorter (buffer : Option Bytes) (limit : Nat) :
      (buffer.any fun bytes => decide (bytes.length < limit)) =
        (buffer.map List.length).any fun length => decide (length < limit) := by
    cases buffer <;> rfl
  rw [Dispatched.truncated, Dispatched.truncated, accepted]
  simp only [shorter, h.room]

theorem Alike.unbuffered (h : made.Alike other) : other.unbuffered = made.unbuffered := by
  have missing : other.buffer.isNone = made.buffer.isNone := by
    rw [← Option.isNone_map, h.room, Option.isNone_map]
  rw [Dispatched.unbuffered, Dispatched.unbuffered, accepted, accepted, h.reports, missing]

theorem Coherent.count_eq (h : made.Coherent) (hother : other.Coherent) (alike : made.Alike other)
    (counters : Counters) : counters.count other = counters.count made := by
  have settled (outcome : Outcome) : other.settledAs outcome = made.settledAs outcome := by
    rw [settledAs, settledAs, alike.reports]
  have unconfigured : other.unconfigured = made.unconfigured := by
    rw [Dispatched.unconfigured, Dispatched.unconfigured, alike.handler,
      Event.isLine_of_slot_eq alike.slot]
  have ignored : other.ignored = made.ignored := by
    rw [Dispatched.ignored, Dispatched.ignored, alike.handler, Event.isLine_of_slot_eq alike.slot]
  rw [Counters.count, Counters.count, settled .txDone, settled .rxDone, settled .txTimeout,
    settled .rxTimeout, settled .rxError,
    endedBusy_of_nameless (h.nameless_result hother alike), unconfigured, ignored,
    alike.truncated, alike.unbuffered]

end Dispatched

theorem Counters.count_right_comm (counters : Counters) (made other : Dispatched) :
    (counters.count made).count other = (counters.count other).count made := by
  have swap (a b c : UInt64) : a + b + c = a + c + b := by
    ac_rfl
  simp only [count, swap]

/-! ## Turns -/

def Slot.event : Slot → Event
  | .line index => .line index
  | .timer id => .timer id

theorem Event.slot_event_slot (event : Event) : event.slot.event.slot = event.slot := by
  cases event with
  | line pin =>
      revert pin
      decide
  | timer timer => rfl

structure Turn where
  slot : Slot
  handler : Option Handler

namespace Turn

def reports (turn : Turn) : List Report :=
  turn.handler.elim [] (·.reports {} {})

def made (turn : Turn) (buffer : Option Bytes) : Dispatched where
  event := turn.slot.event
  handler := turn.handler
  reports := turn.reports
  buffer
  result :=
    match turn.handler with
    | none => turn.slot.event.unhandled
    | some _ => .ok (turn.reports.head?.elim .busy Report.outcome)

def result (turn : Turn) : Except Nat Outcome :=
  Unconfigured.nameless (turn.made none).result

theorem coherent_made (turn : Turn) (buffer : Option Bytes) : (turn.made buffer).Coherent where
  reports silent := by
    change turn.handler = none at silent
    change turn.reports = []
    rw [reports, silent]
    rfl
  result := rfl

end Turn

def Slot.passed (slot : Slot) (held : Slot → Option Handler) : Slot → Option Handler :=
  fun other => if other = slot then (held other).map Handler.advance else held other

def turns (held : Slot → Option Handler) : List Event → List Turn
  | [] => []
  | event :: events => ⟨event.slot, held event.slot⟩ :: turns (event.slot.passed held) events

theorem Dispatcher.handler?_dispatch_eq_passed (dispatcher : Dispatcher) (event : Event)
    (bench : Bench) :
    (dispatcher.dispatch event bench).dispatcher.handler? = event.slot.passed dispatcher.handler? :=
  funext fun slot => dispatcher.handler?_dispatch event bench slot

theorem filter_turns (held : Slot → Option Handler) (events : List Event) (slot : Slot) :
    (turns held events).filter (·.slot = slot) =
      (List.range (events.countP (·.slot = slot))).map fun run =>
        ⟨slot, (held slot).map (·.after run)⟩ := by
  induction events generalizing held with
  | nil => rfl
  | cons event events ih =>
      rw [turns, List.filter_cons, List.countP_cons, ih, Slot.passed]
      by_cases reached : event.slot = slot
      · subst reached
        have first : (held event.slot).map (·.after 0) = held event.slot := by
          simp only [Handler.after_zero, Option.map_id']
        simp only [decide_true, if_true, List.range_succ_eq_map, List.map_cons, List.map_map, first,
          Option.map_map, List.cons.injEq, true_and]
        apply List.map_congr_left
        intro run _
        simp only [Function.comp_def, Handler.after_advance]
      · have apart : slot ≠ event.slot := Ne.symm reached
        simp only [reached, apart, decide_false, if_false, Nat.add_zero, Bool.false_eq_true]

theorem perm_of_filter_eq {α κ : Type} [DecidableEq κ] (key : α → κ) {items others : List α}
    (same : ∀ sought, items.filter (key · = sought) = others.filter (key · = sought)) :
    items.Perm others := by
  classical
  rw [List.perm_iff_count]
  intro item
  have kept (list : List α) : (list.filter (key · = key item)).count item = list.count item :=
    List.count_filter (decide_eq_true rfl)
  rw [← kept items, ← kept others, same]

/-! ## Dispatches as turns -/

namespace Dispatcher

variable {dispatcher : Dispatcher} {bench : Bench} {before : Bench → Bench}

theorem length_registered_dispatch (dispatcher : Dispatcher) (event : Event) (bench : Bench) :
    (dispatcher.dispatch event bench).dispatcher.inbox.registered.map List.length =
      dispatcher.inbox.registered.map List.length := by
  rw [inbox_dispatch]
  cases dispatcher.accepted event bench with
  | none => rfl
  | some frame =>
      rw [Option.elim_some, Inbox.registered_fill, Option.map_map]
      congr 1
      exact funext fun bytes => length_overlay frame.payload bytes

theorem Determined.observe_alike (h : dispatcher.Determined) {buffer : Option Bytes}
    (room : dispatcher.inbox.registered.map List.length = buffer.map List.length) (event : Event)
    (bench : Bench) :
    ((Turn.mk event.slot (dispatcher.handler? event.slot)).made buffer).Alike
      (dispatcher.observe event bench) where
  slot := event.slot_event_slot.symm
  handler := rfl
  reports := by
    change dispatcher.reports event bench = Turn.reports _
    rw [Dispatcher.reports, Turn.reports]
    cases held : dispatcher.handler? event.slot with
    | none => rfl
    | some handler =>
        have determined := h event.slot handler held 0
        rw [Handler.after_zero] at determined
        exact determined _ _ _ _
  room := room

theorem Determined.counters_dispatchAll (h : dispatcher.Determined) {buffer : Option Bytes}
    (room : dispatcher.inbox.registered.map List.length = buffer.map List.length)
    (events : List Event) :
    (dispatchAll before dispatcher bench events).dispatcher.counters =
      (turns dispatcher.handler? events).foldl (fun counters turn =>
        counters.count (turn.made buffer)) dispatcher.counters := by
  induction events generalizing dispatcher bench with
  | nil => rfl
  | cons event events ih =>
      have counted := (Turn.coherent_made _ buffer).count_eq
        (dispatcher.coherent_observe event (before bench))
        (h.observe_alike room event (before bench)) dispatcher.counters
      rw [turns, List.foldl_cons, ← counted, ← counters_dispatch,
        ← handler?_dispatch_eq_passed dispatcher event (before bench)]
      apply ih (h.dispatch event (before bench))
      rw [length_registered_dispatch, room]

theorem handler?_dispatchAll (dispatcher : Dispatcher) (bench : Bench) (events : List Event)
    (slot : Slot) :
    (dispatchAll before dispatcher bench events).dispatcher.handler? slot =
      (dispatcher.handler? slot).map (·.after (events.countP (·.slot = slot))) := by
  induction events generalizing dispatcher bench with
  | nil =>
      rw [dispatchAll, List.countP_nil]
      simp only [Handler.after_zero, Option.map_id']
  | cons event events ih =>
      rw [dispatchAll, ih, handler?_dispatch, List.countP_cons]
      by_cases reached : event.slot = slot
      · subst reached
        simp only [if_true, Option.map_map, Function.comp_def, Handler.after_advance, decide_true]
      · have apart : slot ≠ event.slot := Ne.symm reached
        simp only [reached, apart, decide_false, if_false, Nat.add_zero, Bool.false_eq_true]

end Dispatcher

/-- How the dispatches to one slot ended, in order, without the names of events. -/
def DrainRun.answers (run : DrainRun) (slot : Slot) : List (Except Nat Outcome) :=
  (run.outcomes.filter (·.1.slot = slot)).map fun ended => Unconfigured.nameless ended.2

namespace Dispatcher

variable {dispatcher : Dispatcher} {bench : Bench} {before : Bench → Bench}

theorem Determined.answers_dispatchAll (h : dispatcher.Determined) (events : List Event)
    (slot : Slot) :
    (dispatchAll before dispatcher bench events).answers slot =
      ((turns dispatcher.handler? events).filter (·.slot = slot)).map Turn.result := by
  induction events generalizing dispatcher bench with
  | nil => rfl
  | cons event events ih =>
      let first := dispatcher.dispatch event (before bench)
      have later : (dispatchAll before first.dispatcher first.bench events).answers slot = _ :=
        ih (h.dispatch event (before bench))
      have result : Unconfigured.nameless first.result =
          Turn.result ⟨event.slot, dispatcher.handler? event.slot⟩ :=
        (Turn.coherent_made _ dispatcher.inbox.registered).nameless_result
          (dispatcher.coherent_observe event (before bench))
          (h.observe_alike rfl event (before bench))
      rw [handler?_dispatch_eq_passed, DrainRun.answers] at later
      rw [dispatchAll, DrainRun.answers, turns, List.filter_cons, List.filter_cons]
      split
      · rw [List.map_cons, List.map_cons, later, result]
      · exact later

/-- With handlers that know only their runs, two sequences of events that reach every slot equally
often leave the same counters and the same handlers with as many runs, and end alike slot by slot,
up to the names of events.  The benches, and what happens on them between the dispatches, make no
difference.  Scripts are such handlers. -/
theorem counters_do_not_depend_on_interleaving (dispatcher : Dispatcher)
    (determined : dispatcher.Determined) (events others : List Event)
    (same : ∀ slot, others.countP (·.slot = slot) = events.countP (·.slot = slot))
    (before beforeOther : Bench → Bench) (bench benchOther : Bench) :
    let one := dispatchAll before dispatcher bench events
    let other := dispatchAll beforeOther dispatcher benchOther others
    other.dispatcher.counters = one.dispatcher.counters ∧
    (∀ slot, one.dispatcher.handler? slot =
        (dispatcher.handler? slot).map (·.after (events.countP (·.slot = slot))) ∧
      other.dispatcher.handler? slot = one.dispatcher.handler? slot) ∧
    (∀ slot, other.answers slot = one.answers slot) ∧
    ∀ (script : Script) (past : Nat), (script.handler.after past).Determined := by
  intro one other
  have bySlot (slot : Slot) : (turns dispatcher.handler? events).filter (·.slot = slot) =
      (turns dispatcher.handler? others).filter (·.slot = slot) := by
    rw [filter_turns, filter_turns, same]
  refine ⟨?_, fun slot => ⟨?_, ?_⟩, fun slot => ?_, Script.determined⟩
  · change (dispatchAll _ _ _ _).dispatcher.counters = (dispatchAll _ _ _ _).dispatcher.counters
    rw [determined.counters_dispatchAll rfl, determined.counters_dispatchAll rfl]
    have permuted := perm_of_filter_eq Turn.slot bySlot
    exact (permuted.foldl_eq' (fun _ _ _ _ counters => counters.count_right_comm _ _) _).symm
  · exact dispatcher.handler?_dispatchAll bench events slot
  · change (dispatchAll _ _ _ _).dispatcher.handler? slot =
      (dispatchAll _ _ _ _).dispatcher.handler? slot
    rw [handler?_dispatchAll, handler?_dispatchAll, same]
  · change (dispatchAll _ _ _ _).answers slot = (dispatchAll _ _ _ _).answers slot
    rw [determined.answers_dispatchAll, determined.answers_dispatchAll, bySlot]

/-- A handler that receives and then sends, one that always fails, a timer and a line without
handlers.  The same events in another order, and on the other line of slot 0, end with another
outcome, but count alike. -/
theorem counters_do_not_depend_on_interleaving_five :
    let receiver : Script :=
      { id := "receiver", runs := [[.report (.rxDone ⟨[1, 2, 3], -70, 4⟩)], [.report .txDone]] }
    let failing : Script := { id := "failing", runs := [[.look, .report .rxError]], cycle := true }
    let requests : List Request := [.line 0 receiver.handler, .line 3 failing.handler]
    let dispatcher : Dispatcher :=
      { inbox := { buffer := some (.owned [0, 0]) }
        toRegistry := (Registry.empty.performAll requests).2.1 }
    let events : List Event := [.line 0, .line 3, .timer .timer1, .line 5, .line 1]
    let others : List Event := [.line 5, .line 1, .line 0, .timer .timer1, .line 3]
    let one := dispatchAll id dispatcher {} events
    let other := dispatchAll id dispatcher {} others
    one.dispatcher.outcome = .txDone ∧ other.dispatcher.outcome = .rxError ∧
      other.dispatcher.counters = one.dispatcher.counters ∧
      one.dispatcher.counters.rxTruncated = 1 ∧
      other.answers (.line 0) = [.ok .rxDone, .ok .txDone] ∧
      other.answers (.line 5) = [.error 5] := by
  intro receiver failing requests dispatcher events others one other
  have determined : dispatcher.Determined := by
    intro slot handler held
    match slot with
    | .line 0 =>
        obtain rfl : receiver.handler = handler := Option.some.inj held
        exact receiver.determined 0
    | .line 3 =>
        obtain rfl : failing.handler = handler := Option.some.inj held
        exact failing.determined 0
    | .line 1 | .line 2 | .line 4 | .line 5 => cases held
    | .timer .timer1 | .timer .timer2 | .timer .timer3 => cases held
  have same (slot : Slot) :
      others.countP (·.slot = slot) = events.countP (·.slot = slot) := by
    match slot with
    | .line 0 | .line 1 | .line 2 | .line 3 | .line 4 | .line 5 => rfl
    | .timer .timer1 | .timer .timer2 | .timer .timer3 => rfl
  obtain ⟨counters, -, answers, -⟩ :=
    counters_do_not_depend_on_interleaving dispatcher determined events others same id id {} {}
  exact ⟨rfl, rfl, counters, rfl, answers _, answers _⟩

end Dispatcher

end RadioInterrupt
