import RadioInterrupt.Session.Table

/-!
# How many slots of a table are taken

The taken slots are counted anew at every look at a table.  The count is nevertheless what the
answers of the table add up to: the values of the latest load, and one more for each answer since
that a value was stored in an empty slot (`Session.Table.Ledger.Balanced.run`).
-/

namespace RadioInterrupt

namespace SlotTable

variable {α : Type} {n : Nat}

/-! ## Readings of the slots -/

theorem map_isSome_slots (table : SlotTable α n) :
    table.slots.toList.map Option.isSome = (List.range n).map table.isSet := by
  apply List.ext_getElem
  · simp
  · intro index inside _
    have below : index < n := by simpa using inside
    simp [isSet, get?, below]

theorem configured_eq_countP_isSet (table : SlotTable α n) :
    table.configured = (List.range n).countP table.isSet := by
  have counted := congrArg (List.countP id) table.map_isSome_slots
  simp only [List.countP_map, Function.id_comp] at counted
  exact counted

theorem configured_le (table : SlotTable α n) : table.configured ≤ n := by
  simpa [configured] using List.countP_le_length (p := Option.isSome) (l := table.slots.toList)

theorem isEmpty_iff {table : SlotTable α n} : table.isEmpty = true ↔ table.configured = 0 := by
  rw [isEmpty, configured, List.all_eq_true, List.countP_eq_zero]
  simp

theorem isSet_of_le {table : SlotTable α n} {index : Nat} (h : n ≤ index) :
    table.isSet index = false := by
  simp [isSet, get?_eq_none_of_le h]

/-! ## Changes of the slots -/

theorem configured_empty : (empty : SlotTable α n).configured = 0 := by
  simp [configured, empty, List.countP_eq_zero]

theorem configured_set (table : SlotTable α n) {index : Nat} (h : index < n) (value : α) :
    (⟨table.slots.set index (some value) h⟩ : SlotTable α n).configured =
      table.configured + if table.isSet index then 0 else 1 := by
  have inside : index < table.slots.toList.length := by simpa using h
  have held : table.isSet index = (table.slots.toList[index]).isSome := by simp [isSet, get?, h]
  simp only [configured, Vector.toList_set, List.countP_set inside, Option.isSome_some, if_true]
  rw [held]
  cases taken : (table.slots.toList[index]).isSome with
  | false => simp
  | true =>
      -- The value that is replaced was counted, so that taking it off and adding one is exact.
      have positive : 0 < table.slots.toList.countP Option.isSome :=
        List.countP_pos_iff.mpr ⟨_, List.getElem_mem inside, taken⟩
      simp only [if_true]
      omega

theorem isSet_modify (table : SlotTable α n) (index : Nat) (change : α → α) :
    (table.modify index change).isSet = table.isSet := by
  funext other
  rw [isSet, get?_modify]
  split <;> simp [isSet]

theorem configured_modify (table : SlotTable α n) (index : Nat) (change : α → α) :
    (table.modify index change).configured = table.configured := by
  rw [configured_eq_countP_isSet, isSet_modify, ← configured_eq_countP_isSet]

end SlotTable

namespace Session.Table

variable {n : Nat} {session : Table n}

/-! ## Steps -/

def Step.entries? : Step n → Option (Vector (Option Handler) n)
  | .load entries => some entries
  | _ => none

def Answer.registers : Answer → Bool
  | .inserted (.ok .registered) => true
  | _ => false

theorem step_insert_of_lt {index : Nat} (h : index < n) (handler : Handler) :
    session.step (.insert index handler) =
      (.inserted (.ok (if session.table.isSet index then .replaced else .registered)),
        { session with table := ⟨session.table.slots.set index (some handler) h⟩ }) := by
  simp only [step, SlotTable.insert_of_lt _ h]

theorem step_insert_of_le {index : Nat} (h : n ≤ index) (handler : Handler) :
    session.step (.insert index handler) = (.inserted (.error ⟨index, n⟩), session) := by
  simp only [step, SlotTable.insert_of_le _ h]

theorem step_run_of_none {index : Nat} (h : session.table.get? index = none) :
    session.step (.run index) = (.noHandler, session) := by
  simp only [step, h]

theorem step_run_of_some {index : Nat} {handler : Handler}
    (h : session.table.get? index = some handler) :
    ∃ notes reports bench, session.step (.run index) =
      (.ran notes reports, ⟨session.table.modify index Handler.advance, bench⟩) := by
  simp only [step, h]
  exact ⟨_, _, _, rfl⟩

theorem step_run_eq_noHandler_iff {index : Nat} :
    (session.step (.run index)).1 = .noHandler ↔ session.table.isSet index = false := by
  cases held : session.table.get? index with
  | none => simp [step_run_of_none held, SlotTable.isSet, held]
  | some handler =>
      obtain ⟨notes, reports, bench, ran⟩ := step_run_of_some held
      simp [ran, SlotTable.isSet, held]

theorem configured_step {step : Step n} (h : step.entries? = none) :
    (session.step step).2.table.configured =
      session.table.configured + if (session.step step).1.registers then 1 else 0 := by
  cases step with
  | load entries => simp [Step.entries?] at h
  | insert index handler =>
      by_cases inside : index < n
      · rw [step_insert_of_lt inside, SlotTable.configured_set]
        cases session.table.isSet index <;> rfl
      · rw [step_insert_of_le (Nat.not_lt.mp inside)]
        rfl
  | run index =>
      cases held : session.table.get? index with
      | none =>
          rw [step_run_of_none held]
          rfl
      | some handler =>
          obtain ⟨notes, reports, bench, ran⟩ := step_run_of_some held
          rw [ran]
          exact SlotTable.configured_modify _ _ _
  | isSet | describe => rfl

/-! ## The books of a session -/

structure Ledger (n : Nat) where
  session : Table n
  journal : List (Step n × Answer)

namespace Ledger

def start (bench : Bench) : Ledger n :=
  ⟨{ bench }, []⟩

def perform (ledger : Ledger n) (step : Step n) : Ledger n :=
  let (answer, session) := ledger.session.step step
  ⟨session, (step, answer) :: ledger.journal⟩

def run (ledger : Ledger n) (steps : List (Step n)) : Ledger n :=
  steps.foldl perform ledger

def loaded? (ledger : Ledger n) : Option (Vector (Option Handler) n) :=
  ledger.journal.findSome? fun (step, _) => step.entries?

def sinceLoad (ledger : Ledger n) : List (Step n × Answer) :=
  ledger.journal.takeWhile fun (step, _) => step.entries?.isNone

def balance (ledger : Ledger n) : Nat :=
  (ledger.loaded?.elim 0 fun entries => entries.toList.countP Option.isSome) +
    ledger.sinceLoad.countP fun (_, answer) => answer.registers

def Balanced (ledger : Ledger n) : Prop :=
  ledger.session.table.configured = ledger.balance

variable {ledger : Ledger n}

theorem balance_perform_of_load (ledger : Ledger n) (entries : Vector (Option Handler) n) :
    (ledger.perform (.load entries)).balance = entries.toList.countP Option.isSome := by
  simp [balance, loaded?, sinceLoad, perform, Table.step, Step.entries?]

theorem balance_perform {step : Step n} (h : step.entries? = none) :
    (ledger.perform step).balance =
      ledger.balance + if (ledger.session.step step).1.registers then 1 else 0 := by
  simp [balance, loaded?, sinceLoad, perform, h, List.countP_cons, Nat.add_assoc]

theorem Balanced.perform (h : ledger.Balanced) (step : Step n) :
    (ledger.perform step).Balanced := by
  cases loads : step.entries? with
  | none =>
      change (ledger.session.step step).2.table.configured = _
      rw [configured_step loads, balance_perform loads, h]
  | some entries =>
      cases step with
      | load entries =>
          rw [Balanced, balance_perform_of_load]
          rfl
      | _ => simp [Step.entries?] at loads

theorem Balanced.run (h : ledger.Balanced) (steps : List (Step n)) :
    (ledger.run steps).Balanced := by
  induction steps generalizing ledger with
  | nil => exact h
  | cons step steps ih => exact ih (h.perform step)

theorem balanced_start (bench : Bench) : (start bench : Ledger n).Balanced :=
  SlotTable.configured_empty

end Ledger

/-- In every session that begins with a new table, the count of taken slots is the number of values
of the latest load, and one more for each registration since.  It is also the number of indices that
are set, all of them in range.  A handler is found, and runs, exactly at an index that is set.  An
insertion in range tells whether its slot was set, and writes that slot alone; out of range it is
refused and changes nothing. -/
theorem occupancy_follows_answers (bench : Bench) (steps : List (Step n)) :
    let ledger := (Ledger.start bench).run steps
    let session := ledger.session
    let table := session.table
    table.configured =
      (ledger.loaded?.elim 0 fun entries => entries.toList.countP Option.isSome) +
        (ledger.sinceLoad.countP fun (_, answer) => answer.registers) ∧
    table.configured = (List.range n).countP table.isSet ∧
    table.configured ≤ n ∧
    (table.isEmpty = true ↔ table.configured = 0) ∧
    (∀ index, (∃ handler, table.get? index = some handler) ↔ table.isSet index = true) ∧
    (∀ index, (session.step (.run index)).1 = .noHandler ↔ table.isSet index = false) ∧
    (∀ index, n ≤ index → table.isSet index = false) ∧
    (∀ index handler, index < n →
      let made := session.step (.insert index handler)
      made.1 = .inserted (.ok (if table.isSet index then .replaced else .registered)) ∧
      ∀ other, made.2.table.get? other =
        if other = index then some handler else table.get? other) ∧
    (∀ index handler, n ≤ index →
      session.step (.insert index handler) = (.inserted (.error ⟨index, n⟩), session)) := by
  intro ledger session table
  have balanced : ledger.Balanced := (Ledger.balanced_start bench).run steps
  refine ⟨balanced, table.configured_eq_countP_isSet, table.configured_le,
    SlotTable.isEmpty_iff, ?_, ?_, ?_, ?_, ?_⟩
  · intro index
    exact SlotTable.isSet_iff.symm
  · intro index
    exact step_run_eq_noHandler_iff
  · intro index outside
    exact SlotTable.isSet_of_le outside
  · intro index handler inside made
    rw [show made = _ from step_insert_of_lt inside handler]
    exact ⟨rfl, table.get?_set inside handler⟩
  · intro index handler outside
    exact step_insert_of_le outside handler

theorem occupancy_follows_answers_reloaded :
    let probe : Handler := .chipLine 0
    let steps : List (Step 3) :=
      [.insert 2 probe, .load #v[some probe, none, none], .insert 1 probe, .insert 1 probe,
        .insert 9 probe, .run 0]
    let session := ((Ledger.start {}).run steps).session
    session.table.configured = 2 ∧
      session.table.isSet 3 = false ∧
      (session.step (.insert 2 probe)).1 = .inserted (.ok .registered) ∧
      (session.step (.insert 2 probe)).2.table.get? 0 = session.table.get? 0 ∧
      session.step (.insert 3 probe) = (.inserted (.error ⟨3, 3⟩), session) := by
  intro probe steps session
  obtain ⟨counted, _, _, _, _, _, outside, inserted, refused⟩ :=
    occupancy_follows_answers {} steps
  obtain ⟨answered, kept⟩ := inserted 2 probe (by decide)
  exact ⟨counted, outside 3 (by decide), answered, kept 0, refused 3 probe (by decide)⟩

end Session.Table

end RadioInterrupt
