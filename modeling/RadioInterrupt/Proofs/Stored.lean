import RadioInterrupt.Proofs.Course
import RadioInterrupt.Script

/-!
# The handler that an event reaches

A slot is written by requests, and cleared by the empty entries of a table and by every
installation.  The last write in the journal decides what a slot holds, and the dispatches since
then are the runs that its handler has behind it.
-/

namespace RadioInterrupt

/-! ## Writes of requests -/

namespace Request

def writes (request : Request) (slot : Slot) : List (Option Handler) :=
  match request, slot with
  | .line index handler, .line place => if index = place then [some handler] else []
  | .timer named handler, .timer place => if named = place then [some handler] else []
  | .table handlers, .line place => [handlers[place]]
  | _, _ => []

def leave (requests : List Request) (slot : Slot) : Option Handler :=
  (requests.flatMap (·.writes slot)).getLast?.join

def answer (request : Request) (held : Slot → Bool) : RequestAnswer :=
  match request with
  | .line index _ =>
      if h : index < 6 then
        .stored (if held (.line ⟨index, h⟩) then .replaced else .registered)
      else .refused ⟨index, 6⟩
  | .timer named _ => .stored (if held (.timer named) then .replaced else .registered)
  | .table _ => .loaded

end Request

theorem join_or {α : Type} (last earlier : Option (Option α)) :
    (last.or earlier).join = last.getD earlier.join := by
  cases last <;> rfl

theorem getD_or {α : Type} (last earlier : Option α) (held : α) :
    (last.or earlier).getD held = last.getD (earlier.getD held) := by
  cases last <;> rfl

namespace Registry

theorem handler?_perform (registry : Registry) (request : Request) (slot : Slot) :
    (registry.perform request).2.1.handler? slot =
      (request.writes slot).getLast?.getD (registry.handler? slot) := by
  cases request with
  | line index handler =>
      by_cases h : index < 6
      · rw [perform, SlotTable.insert_of_lt _ h]
        cases slot with
        | line place =>
            change SlotTable.get? _ place = _
            rw [SlotTable.get?_set, Request.writes]
            by_cases same : index = place
            · rw [if_pos same.symm, if_pos same]
              rfl
            · rw [if_neg (Ne.symm same), if_neg same]
              rfl
        | timer place => rfl
      · rw [perform, SlotTable.insert_of_le _ (Nat.not_lt.mp h)]
        cases slot with
        | line place =>
            have other : index ≠ place := by omega
            rw [Request.writes, if_neg other]
            rfl
        | timer place => rfl
  | timer timer handler =>
      rw [perform, SlotTable.insert_of_lt _ timer.index.isLt]
      cases slot with
      | line place => rfl
      | timer place =>
          change SlotTable.get? _ place.index = _
          rw [SlotTable.get?_set, Request.writes]
          simp only [Slot.timer_index_inj, Slot.timer.injEq]
          by_cases same : timer = place
          · rw [if_pos same.symm, if_pos same]
            rfl
          · rw [if_neg (Ne.symm same), if_neg same]
            rfl
  | table handlers =>
      cases slot with
      | line place => simp [perform, handler?, SlotTable.load, SlotTable.get?, Request.writes]
      | timer place => rfl

theorem answer_perform (registry : Registry) (request : Request) :
    (registry.perform request).1 = request.answer fun slot => (registry.handler? slot).isSome := by
  cases request with
  | line index handler =>
      by_cases h : index < 6
      · rw [perform, SlotTable.insert_of_lt _ h, Request.answer, dif_pos h]
        rfl
      · rw [perform, SlotTable.insert_of_le _ (Nat.not_lt.mp h), Request.answer, dif_neg h]
  | timer timer handler =>
      rw [perform, SlotTable.insert_of_lt _ timer.index.isLt]
      rfl
  | table handlers => rfl

theorem handler?_performAll (registry : Registry) (requests : List Request) (slot : Slot) :
    (registry.performAll requests).2.1.handler? slot =
      (requests.flatMap (·.writes slot)).getLast?.getD (registry.handler? slot) := by
  induction requests generalizing registry with
  | nil => rfl
  | cons request requests ih =>
      rw [performAll_cons]
      change ((registry.perform request).2.1.performAll requests).2.1.handler? slot = _
      rw [ih, handler?_perform, List.flatMap_cons, List.getLast?_append, getD_or]

theorem handler?_performAll_empty (requests : List Request) (slot : Slot) :
    (empty.performAll requests).2.1.handler? slot = Request.leave requests slot := by
  rw [handler?_performAll, handler?_empty, Request.leave]
  cases (requests.flatMap (·.writes slot)).getLast? <;> rfl

theorem answer_performAll (registry : Registry) (requests : List Request) (place : Nat) :
    (registry.performAll requests).1[place]? =
      requests[place]?.map (·.answer fun slot =>
        ((registry.performAll (requests.take place)).2.1.handler? slot).isSome) := by
  induction requests generalizing registry place with
  | nil => rfl
  | cons request requests ih =>
      rw [performAll_cons]
      cases place with
      | zero =>
          change some (registry.perform request).1 = _
          rw [answer_perform]
          rfl
      | succ place => exact ih _ place

end Registry

/-! ## Writes in the journal -/

namespace Entry

def writes (entry : Entry) (slot : Slot) : List (Option Handler) :=
  match entry with
  | .registered request _ => request.writes slot
  | .installed requests succeeded =>
      none :: if succeeded then requests.flatMap (·.writes slot) else []
  | _ => []

def reaches (entry : Entry) (slot : Slot) : Bool :=
  match entry with
  | .dispatched made => made.event.slot = slot
  | _ => false

/-- The handler that was stored at a slot last, unless the slot was cleared since. -/
def stored (journal : List Entry) (slot : Slot) : Option Handler :=
  (journal.reverse.flatMap (·.writes slot)).getLast?.join

/-- The number of dispatches to a slot since it was written last. -/
def runs (journal : List Entry) (slot : Slot) : Nat :=
  (journal.takeWhile fun entry => (entry.writes slot).isEmpty).countP (·.reaches slot)

def held (journal : List Entry) (slot : Slot) : Option Handler :=
  (stored journal slot).map (·.after (runs journal slot))

theorem stored_cons (entry : Entry) (journal : List Entry) (slot : Slot) :
    stored (entry :: journal) slot = (entry.writes slot).getLast?.getD (stored journal slot) := by
  rw [stored, List.reverse_cons, List.flatMap_append, List.flatMap_singleton,
    List.getLast?_append, join_or]
  rfl

theorem held_cons_of_write {entry : Entry} {slot : Slot} {written : Option Handler}
    (h : (entry.writes slot).getLast? = some written) (journal : List Entry) :
    held (entry :: journal) slot = written := by
  have nonempty : (entry.writes slot).isEmpty = false := by
    cases hwrites : entry.writes slot with
    | nil => simp [hwrites] at h
    | cons => rfl
  rw [held, stored_cons, h, runs, List.takeWhile_cons, nonempty]
  cases written <;> simp

theorem held_cons_of_rest {entry : Entry} {slot : Slot} (hwrites : entry.writes slot = [])
    (hreaches : entry.reaches slot = false) (journal : List Entry) :
    held (entry :: journal) slot = held journal slot := by
  rw [held, stored_cons, runs, List.takeWhile_cons, hwrites]
  simp [hreaches, held, runs]

theorem held_dispatched (made : Dispatched) (journal : List Entry) (slot : Slot) :
    held (.dispatched made :: journal) slot =
      if slot = made.event.slot then (held journal slot).map Handler.advance
      else held journal slot := by
  split
  · next h =>
      have counted : runs (.dispatched made :: journal) slot = runs journal slot + 1 := by
        simp [runs, writes, reaches, h]
      rw [held, stored_cons, counted, held, Option.map_map]
      simp [writes, Function.comp_def, Handler.advance_after]
  · next h => exact held_cons_of_rest rfl (by simpa [reaches] using Ne.symm h) journal

end Entry

theorem Dispatcher.handler?_install {δ β ε : Type} [Driver δ β ε] (dispatcher : Dispatcher)
    (driver : δ) (board : β) (bench : Bench) (slot : Slot) :
    (dispatcher.install driver board bench).dispatcher.handler? slot =
      if (dispatcher.install driver board bench).result.isOk then
        Request.leave (Driver.requests driver board) slot
      else none := by
  rw [dispatcher_install]
  split
  · exact Registry.handler?_performAll_empty _ slot
  · exact Registry.handler?_empty slot

namespace Course

def HoldsStored (course : Course) : Prop :=
  ∀ slot, course.dispatcher.handler? slot = Entry.held course.journal slot

theorem holdsStored_start (region : Bytes) (bench : Bench) : (start region bench).HoldsStored := by
  intro slot
  exact Registry.handler?_empty slot

theorem invariant_holdsStored : Invariant HoldsStored where
  register course request h slot := by
    change (course.dispatcher.toRegistry.perform request).2.1.handler? slot = _
    rw [Registry.handler?_perform, h slot]
    cases hwritten : (request.writes slot).getLast? with
    | none =>
        symm
        apply Entry.held_cons_of_rest
        · exact List.getLast?_eq_none_iff.mp hwritten
        · rfl
    | some written =>
        symm
        apply Entry.held_cons_of_write
        exact hwritten
  install course driver board h slot := by
    change (course.dispatcher.install driver board course.bench).dispatcher.handler? slot = _
    rw [Dispatcher.handler?_install]
    symm
    apply Entry.held_cons_of_write
    rw [Entry.writes, List.getLast?_cons]
    congr 1
    split
    · rw [Request.leave]
      cases ((Driver.requests driver board).flatMap (·.writes slot)).getLast? <;> rfl
    · rfl
  setBuffer course buffer h slot := by
    rw [setBuffer, Entry.held_cons_of_rest rfl rfl]
    exact h slot
  takeBuffer course h slot := by
    rw [takeBuffer, Entry.held_cons_of_rest rfl rfl]
    exact h slot
  resetCounters course h slot := by
    rw [resetCounters, Entry.held_cons_of_rest rfl rfl]
    exact h slot
  dispatch course event h slot := by
    rw [dispatch, Entry.held_dispatched, ← h slot]
    exact Dispatcher.handler?_dispatch _ _ _ slot
  arrange course change h := h

theorem holdsStored_run (region : Bytes) (bench : Bench) (operations : List Operation) :
    ((start region bench).run operations).HoldsStored :=
  invariant_holdsStored.run (holdsStored_start region bench) operations

end Course

/-! ## Notes of scripted handlers -/

def Bench.ran (bench : Bench) : List Note :=
  bench.notes.filter fun entry => match entry with
    | .ran _ _ => true
    | _ => false

theorem Bench.ran_note (bench : Bench) (entry : Note) :
    (bench.note entry).ran = bench.ran ++ match entry with
      | .ran handler run => [.ran handler run]
      | _ => [] := by
  rw [ran, notes_note, List.filter_append]
  cases entry <;> rfl

theorem Bench.ran_post (bench : Bench) (sender : Nat) (event : Event) :
    (bench.post sender event).2.ran = bench.ran := by
  unfold post
  split
  · rfl
  · split
    · split <;> rfl
    · rfl

namespace Script

theorem ran_perform {σ : Type} [ReportSink σ] (actions : List Action) (sink : σ) (bench : Bench) :
    ((perform actions).run sink bench).2.ran = bench.ran := by
  induction actions generalizing sink bench with
  | nil => rfl
  | cons action actions ih =>
      cases action with
      | report made =>
          rw [perform, Routine.run_report, ih]
          rfl
      | look =>
          rw [perform, Routine.run_look, Routine.run_note, ih, Bench.ran_note, List.append_nil]
      | post event =>
          rw [perform, Routine.run_post, Routine.run_note, ih, Bench.ran_note, Bench.ran_post,
            List.append_nil]

theorem ran_handler (script : Script) (runs : Nat) (recorder : Recorder) (bench : Bench) :
    ((script.handler.after runs).run recorder bench).2.ran =
      bench.ran ++ [.ran script.id (runs + 1)] := by
  change ((script.behaviour (0 + runs)).run recorder bench).2.ran = _
  rw [behaviour, Routine.run_note, ran_perform, Bench.ran_note, Nat.zero_add]

end Script

/-! ## Dispatches by the journal -/

namespace Course.HoldsStored

variable {course : Course}

theorem isSome_handler? (h : course.HoldsStored) (slot : Slot) :
    (course.dispatcher.handler? slot).isSome = (Entry.stored course.journal slot).isSome := by
  rw [h slot, Entry.held, Option.isSome_map]

theorem handler?_of_stored (h : course.HoldsStored) {slot : Slot} {handler : Handler}
    (hstored : Entry.stored course.journal slot = some handler) :
    course.dispatcher.handler? slot = some (handler.after (Entry.runs course.journal slot)) := by
  rw [h slot, Entry.held, hstored, Option.map_some]

theorem handler?_of_not_stored (h : course.HoldsStored) {slot : Slot}
    (hstored : Entry.stored course.journal slot = none) :
    course.dispatcher.handler? slot = none := by
  rw [h slot, Entry.held, hstored, Option.map_none]

theorem handler?_dispatch (h : course.HoldsStored) (event : Event) (slot : Slot) :
    (course.dispatcher.dispatch event course.bench).dispatcher.handler? slot =
      (Entry.stored course.journal slot).map
        (·.after (Entry.runs course.journal slot + if slot = event.slot then 1 else 0)) := by
  rw [Dispatcher.handler?_dispatch, h slot, Entry.held]
  split
  · rw [Option.map_map]
    simp only [Function.comp_def, Handler.advance_after]
  · rfl

end Course.HoldsStored

theorem Dispatcher.bench_of_none {dispatcher : Dispatcher} {event : Event}
    (h : dispatcher.handler? event.slot = none) (bench : Bench) :
    ∃ message, (dispatcher.dispatch event bench).bench = bench.say [message] := by
  rw [dispatch_of_none h, endUnhandled]
  cases event.slot with
  | line index => exact ⟨_, rfl⟩
  | timer id => exact ⟨_, rfl⟩

/-- After every course the journal decides which handler an event reaches: the one that was stored
at its slot last, unless the slot was cleared since.  A dispatch is one run of that handler and of
no other, and a dispatch that finds none runs none. -/
theorem Course.journal_decides_handler (region : Bytes) (bench : Bench)
    (operations : List Operation) (event : Event) :
    let course := (start region bench).run operations
    let stored := Entry.stored course.journal
    let runs := Entry.runs course.journal
    let made := course.dispatcher.dispatch event course.bench
    course.dispatcher.isConfigured event = (stored event.slot).isSome ∧
    (∀ handler, stored event.slot = some handler →
      let ran := (handler.after (runs event.slot)).run course.dispatcher.begin.toRecorder
        course.bench
      made = course.dispatcher.begin.endHandled event ran.1 ran.2) ∧
    (∀ script : Script, stored event.slot = some script.handler →
      made.bench.ran = course.bench.ran ++ [.ran script.id (runs event.slot + 1)]) ∧
    (stored event.slot = none →
      made.result = event.unhandled ∧ ∃ message, made.bench = course.bench.say [message]) ∧
    (∀ slot, made.dispatcher.handler? slot =
      (stored slot).map (·.after (runs slot + if slot = event.slot then 1 else 0))) ∧
    (∀ request, (course.dispatcher.register request course.bench).1 =
      request.answer fun slot => (stored slot).isSome) ∧
    (∀ (requests : List Request) (place : Nat), (Registry.empty.performAll requests).1[place]? =
      requests[place]?.map (·.answer fun slot =>
        (Request.leave (requests.take place) slot).isSome)) := by
  intro course stored runs made
  have h : course.HoldsStored := holdsStored_run region bench operations
  refine ⟨h.isSome_handler? event.slot, ?_, ?_, ?_, h.handler?_dispatch event, ?_, ?_⟩
  · intro handler hstored
    exact Dispatcher.dispatch_of_handler (h.handler?_of_stored hstored) course.bench
  · intro script hstored
    have one := Dispatcher.dispatch_of_handler (h.handler?_of_stored hstored) course.bench
    rw [show made = _ from one]
    exact script.ran_handler _ _ _
  · intro hstored
    have absent := h.handler?_of_not_stored hstored
    exact ⟨Dispatcher.result_of_none absent _, Dispatcher.bench_of_none absent _⟩
  · intro request
    change (course.dispatcher.toRegistry.perform request).1 = _
    rw [Registry.answer_perform]
    simp only [h.isSome_handler?]
    rfl
  · intro requests place
    rw [Registry.answer_performAll]
    simp only [Registry.handler?_performAll_empty]

theorem Course.journal_decides_probe :
    let probe : Script := { id := "probe", runs := [[], [.report .txDone]] }
    let course := (start [] {}).run [.register (.line 2 probe.handler), .dispatch (.line 2)]
    (course.dispatcher.dispatch (.line 2) course.bench).bench.ran =
        [.ran "probe" 1, .ran "probe" 2] ∧
      (course.dispatcher.dispatch (.line 2) course.bench).result = .ok .txDone ∧
      (course.dispatcher.dispatch (.line 3) course.bench).result = .error ⟨.line 3, 3⟩ := by
  intro probe course
  have hit := journal_decides_handler [] {}
    [.register (.line 2 probe.handler), .dispatch (.line 2)] (.line 2)
  have miss := journal_decides_handler [] {}
    [.register (.line 2 probe.handler), .dispatch (.line 2)] (.line 3)
  refine ⟨hit.2.2.1 probe rfl, ?_, (miss.2.2.2.1 rfl).1⟩
  have one := hit.2.1 probe.handler rfl
  exact congrArg DispatchRun.result one

end RadioInterrupt
