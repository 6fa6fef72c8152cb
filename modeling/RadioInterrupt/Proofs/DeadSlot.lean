import RadioInterrupt.Proofs.Parallel

/-!
# The slot that no event reaches

Slot 1 can be written like any other, by single requests, by tables and by drivers, and what it
holds counts in the answers to later requests for it.  Since lines 0 and 1 share slot 0, no event is
dispatched to it: what is stored there never runs, and two courses that differ in nothing else
cannot be told apart.
-/

namespace RadioInterrupt

namespace Variation

/-- The same events and the same handlers, where slot 1 is not compared. -/
def deadSlot : Variation where
  Renames := Eq
  Replaces := Eq
  hides index := index == 1
  renames_refl _ := rfl
  replaces_refl _ := rfl
  slot_eq := by
    rintro event _ rfl
    rfl
  varies := by
    rintro handler _ rfl
    exact .refl (fun _ => rfl) handler
  advance := by
    rintro handler _ rfl
    rfl
  shows := by
    intro event place reached
    have apart : place ≠ 1 := by
      rintro rfl
      exact event.slot_ne_line_one reached
    simpa using fun same => apart (Fin.ext same)

theorem compares_deadSlot {slot : Slot} (h : slot ≠ .line 1) : deadSlot.compares slot = true := by
  cases slot with
  | line place =>
      have apart : place.val ≠ 1 := fun same => h (congrArg Slot.line (Fin.ext same))
      simp [compares, deadSlot, apart]
  | timer timer => rfl

theorem Results.eq {result other : Except Unconfigured Outcome}
    (h : deadSlot.Results result other) : other = result := by
  cases h with
  | ok outcome => rfl
  | error same slot =>
      cases same
      rfl

end Variation

theorem PostQueue.Varies.eq {queue other : PostQueue} (h : queue.Varies Eq other) :
    other = queue := by
  obtain ⟨⟨capacity, waiting, receiving, senders⟩, dropped⟩ := queue
  obtain ⟨⟨capacityOther, waitingOther, receivingOther, sendersOther⟩, droppedOther⟩ := other
  obtain ⟨rfl, same, rfl, rfl, rfl⟩ := h
  rw [List.forall₂_eq_eq_eq] at same
  cases same
  rfl

theorem Bench.Varies.queue_eq {bench other : Bench} (h : bench.Varies Eq other) :
    other.queue = bench.queue := by
  have queues := h.queue
  generalize bench.queue = queue at queues
  generalize other.queue = queueOther at queues
  cases queues with
  | none => rfl
  | some pair => rw [pair.eq]

theorem Dispatched.Varies.eq {made other : Dispatched} (h : made.Varies .deadSlot other) :
    other = made := by
  obtain ⟨event, handler, reports, buffer, result⟩ := made
  obtain ⟨eventOther, handlerOther, reportsOther, bufferOther, resultOther⟩ := other
  obtain ⟨sameEvent, sameHandler, sameReports, sameBuffer, sameResult⟩ := h
  obtain rfl : event = eventOther := sameEvent
  obtain rfl : handlerOther = handler := eq_of_rel_eq sameHandler
  obtain rfl : resultOther = result := sameResult.eq
  cases sameReports
  cases sameBuffer
  rfl

theorem Entry.dispatched?_of_varies {entry other : Entry} (h : entry.Varies .deadSlot other) :
    other.dispatched? = entry.dispatched? := by
  cases h with
  | dispatched h => exact congrArg some h.eq
  | registered | installed | bufferSet | bufferTaken | countersReset => rfl

/-! ## What runs -/

namespace Entry

def RunStored (journal : List Entry) : Prop :=
  ∀ later made earlier, journal = later ++ .dispatched made :: earlier →
    made.handler = held earlier made.event.slot

theorem RunStored.cons {journal : List Entry} (h : RunStored journal) {entry : Entry}
    (first : ∀ made, entry = .dispatched made → made.handler = held journal made.event.slot) :
    RunStored (entry :: journal) := by
  intro later made earlier split
  cases later with
  | nil =>
      obtain ⟨rfl, rfl⟩ := List.cons.inj split
      exact first made rfl
  | cons latest later => exact h later made earlier (List.cons.inj split).2

theorem held_line_one (journal : List Entry) :
    held journal (.line 1) = stored journal (.line 1) := by
  have unreached : runs journal (.line 1) = 0 := by
    rw [runs, List.countP_eq_zero]
    intro entry member
    cases entry with
    | dispatched made => simpa [reaches] using made.event.slot_ne_line_one
    | registered | installed | bufferSet | bufferTaken | countersReset => exact Bool.false_ne_true
  rw [held, unreached]
  cases stored journal (.line 1) with
  | none => rfl
  | some handler => rw [Option.map_some, Handler.after_zero]

end Entry

namespace Course

theorem invariant_runStored :
    Invariant fun course => course.HoldsStored ∧ Entry.RunStored course.journal where
  register course request h :=
    ⟨invariant_holdsStored.register course request h.1, h.2.cons nofun⟩
  install course driver board h :=
    ⟨invariant_holdsStored.install course driver board h.1, h.2.cons nofun⟩
  setBuffer course buffer h :=
    ⟨invariant_holdsStored.setBuffer course buffer h.1, h.2.cons nofun⟩
  takeBuffer course h := ⟨invariant_holdsStored.takeBuffer course h.1, h.2.cons nofun⟩
  resetCounters course h := ⟨invariant_holdsStored.resetCounters course h.1, h.2.cons nofun⟩
  dispatch course event h := by
    refine ⟨invariant_holdsStored.dispatch course event h.1, h.2.cons ?_⟩
    rintro made ⟨⟩
    exact h.1 event.slot
  arrange _ _ h := h

theorem runStored_run (region : Bytes) (bench : Bench) (operations : List Operation) :
    Entry.RunStored ((start region bench).run operations).journal := by
  have fresh : Entry.RunStored (start region bench).journal := by
    intro later made earlier split
    cases later <;> cases split
  exact (invariant_runStored.run ⟨holdsStored_start region bench, fresh⟩ operations).2

/-- Two runs of operations that differ in requests for slot 1, in entry 1 of tables, and in drivers
whose requests differ in the same way.  They agree in what the dispatcher recorded, in every other
slot, in chips, queue and runs of handlers, in all dispatches, and entry by entry in the journals,
where only the requests for slot 1 are left out.  Whatever comes next is answered alike, and so is
every request but those for slot 1.  In each of them what slot 1 holds is as it was stored, and what
ran in a dispatch was stored elsewhere. -/
theorem slot_one_is_dead (region : Bytes) (bench : Bench) (left right : List Operation)
    (differ : Matched (·.isHidden .deadSlot = true) (·.Varies .deadSlot ·) left right) :
    let one := (start region bench).run left
    let other := (start region bench).run right
    other.dispatcher.toRecorder = one.dispatcher.toRecorder ∧
    (∀ slot, slot ≠ .line 1 → other.dispatcher.handler? slot = one.dispatcher.handler? slot) ∧
    (other.bench.chips = one.bench.chips ∧ other.bench.queue = one.bench.queue ∧
      other.bench.ran = one.bench.ran) ∧
    other.journal.filterMap Entry.dispatched? = one.journal.filterMap Entry.dispatched? ∧
    Entry.Parallel .deadSlot one.journal other.journal ∧
    (∀ event, other.dispatcher.isConfigured event = one.dispatcher.isConfigured event ∧
      (other.dispatcher.dispatch event other.bench).result =
        (one.dispatcher.dispatch event one.bench).result ∧
      (other.dispatcher.moments event other.bench).map Moment.shown =
        (one.dispatcher.moments event one.bench).map Moment.shown) ∧
    one.RespondsAlike .deadSlot other ∧
    (∀ requests others : List Request,
      Matched (·.isHidden .deadSlot = true) (·.Varies .deadSlot ·) requests others →
      Variation.deadSlot.Told requests (Registry.empty.performAll requests).1 others
        (Registry.empty.performAll others).1) ∧
    ∀ operations, operations = left ∨ operations = right →
      let course := (start region bench).run operations
      course.dispatcher.handler? (.line 1) = Entry.stored course.journal (.line 1) ∧
      ∀ later made earlier, course.journal = later ++ .dispatched made :: earlier →
        made.event.slot ≠ .line 1 ∧ made.handler = Entry.held earlier made.event.slot := by
  intro one other
  have h : one.Varies .deadSlot other :=
    (Course.Varies.refl .deadSlot (start region bench) rfl).run differ
  have alike := h.respondsAlike
  refine ⟨h.dispatcher.recorder, ?_, ⟨h.bench.chips, h.bench.queue_eq, h.bench.ran⟩, ?_,
    h.journal, ?_, alike, ?_, ?_⟩
  · intro slot apart
    exact eq_of_rel_eq (h.dispatcher.registry slot (Variation.compares_deadSlot apart))
  · refine h.journal.filterMap_eq (fun entry hidden => ?_) fun _ _ => Entry.dispatched?_of_varies
    cases entry with
    | dispatched made => cases hidden
    | registered | installed | bufferSet | bufferTaken | countersReset => rfl
  · intro event
    exact ⟨alike.isConfigured event event rfl, (alike.dispatch event event rfl).eq,
      alike.shown event event rfl⟩
  · intro requests others made
    exact ((Registry.Varies.refl .deadSlot .empty).performAll made).1
  · intro operations _ course
    refine ⟨?_, fun later made earlier split => ⟨made.event.slot_ne_line_one, ?_⟩⟩
    · rw [holdsStored_run region bench operations (.line 1), Entry.held_line_one]
    · exact runStored_run region bench operations later made earlier split

/-- In the first run an idle handler is registered at slot 1, loaded into it and requested for it by
a driver, twice; in the second run nothing of this is done.  The handler stays there, and nothing
else differs. -/
theorem slot_one_is_dead_installed :
    let idle : Handler := Script.handler { id := "idle", runs := [] }
    let main : Handler := Script.handler { id := "main", runs := [[.report .txDone]] }
    let table (one : Option Handler) : Vector (Option Handler) 6 :=
      #v[some main, one, none, none, none, none]
    let busy : ScriptedDriver := { requests := [.line 1 idle, .line 0 main, .line 1 idle] }
    let plain : ScriptedDriver := { requests := [.line 0 main] }
    let left : List Operation := [.register (.line 1 idle), .register (.table (table (some idle))),
      .dispatch (.line 1), .install busy (), .dispatch (.line 1)]
    let right : List Operation := [.register (.table (table none)), .dispatch (.line 1),
      .install plain (), .dispatch (.line 1)]
    let one := (start [] {}).run left
    let other := (start [] {}).run right
    (one.dispatcher.handler? (.line 1)).isSome = true ∧
      (other.dispatcher.handler? (.line 1)).isNone = true ∧
      one.bench.ran = [.ran "main" 1, .ran "main" 1] ∧ other.bench.ran = one.bench.ran ∧
      other.dispatcher.toRecorder = one.dispatcher.toRecorder := by
  intro idle main table busy plain left right one other
  have requests : Matched (·.isHidden .deadSlot = true) (·.Varies .deadSlot ·) busy.requests
      plain.requests :=
    .left rfl (.both (.refl rfl) (.left rfl .nil))
  have tables : (Request.table (table (some idle))).Varies .deadSlot (.table (table none)) := by
    refine .table fun place shown => ?_
    match place with
    | 0 => exact .some rfl
    | 1 => cases shown
    | 2 | 3 | 4 | 5 => exact .none
  have differ : Matched (·.isHidden .deadSlot = true) (·.Varies .deadSlot ·) left right :=
    .left rfl (.both (.register tables) (.both (.dispatch rfl)
      (.both (.install (ScriptedDriver.drivers requests rfl)) (.both (.dispatch rfl) .nil))))
  obtain ⟨recorder, -, ⟨-, -, ran⟩, -⟩ := slot_one_is_dead [] {} left right differ
  exact ⟨rfl, rfl, rfl, ran, recorder⟩

end Course

end RadioInterrupt
