import RadioInterrupt.Proofs.Latching
import RadioInterrupt.Proofs.Parallel

/-!
# Two lines with one slot

Lines 0 and 1 share slot 0, and a handler is not told on which of them its event came.  Wherever an
event is dispatched, waits in a queue or is posted by a handler, one of the two lines may take the
place of the other: two courses that differ in nothing else agree after every step, but for the name
of the event in errors, in answers to posts and among those that wait.
-/

namespace RadioInterrupt

def Event.Shares (event other : Event) : Prop :=
  other = event ∨ event.slot = .line 0 ∧ other.slot = .line 0

theorem Event.Shares.slot_eq {event other : Event} (h : event.Shares other) :
    other.slot = event.slot := by
  rcases h with rfl | ⟨one, another⟩
  · rfl
  · rw [one, another]

/-- The lines that share slot 0 may stand for each other, in the posts of handlers too if that is
asked for.  Every slot is compared. -/
def Variation.lineNames (inHandlers : Bool) : Variation where
  Renames := Event.Shares
  Replaces handler other :=
    if inHandlers then handler.Varies Event.Shares other else other = handler
  hides _ := false
  renames_refl _ := .inl rfl
  replaces_refl handler := by
    split
    · exact .refl (fun _ => .inl rfl) handler
    · rfl
  slot_eq := Event.Shares.slot_eq
  varies {handler other} replaced := by
    split at replaced
    · exact replaced
    · rw [replaced]
      exact .refl (fun _ => .inl rfl) handler
  advance {handler other} replaced := by
    split at replaced
    · next asked =>
        rw [if_pos asked]
        exact replaced.advance
    · next asked => rw [if_neg asked, replaced]
  shows _ := rfl

variable {inHandlers : Bool}

theorem Entry.not_isHidden_lineNames (entry : Entry) :
    ¬ entry.isHidden (.lineNames inHandlers) = true := by
  cases entry with
  | registered request answer => cases request <;> exact Bool.false_ne_true
  | installed | bufferSet | bufferTaken | countersReset | dispatched => exact Bool.false_ne_true

theorem PostQueue.Varies.lengths {Renames : Event → Event → Prop} {queue other : Option PostQueue}
    (h : Option.Rel (PostQueue.Varies Renames) queue other) :
    other.map (fun queue => (queue.waiting.length, queue.dropped)) =
      queue.map fun queue => (queue.waiting.length, queue.dropped) := by
  cases h with
  | none => rfl
  | some pair => simp only [Option.map_some, pair.waiting.length_eq, pair.dropped]

namespace Variation

theorem eq_of_replaces_lineNames {handler other : Option Handler}
    (h : Option.Rel (lineNames false).Replaces handler other) : other = handler := by
  cases h with
  | none => rfl
  | some same => exact congrArg some same

end Variation

namespace Course

/-- Two runs of operations in which lines 0 and 1 take each other's place anywhere.  After every
number of steps they agree in what the dispatcher recorded, in the runs of handlers, in the chips,
in how many events wait and were dropped, and entry by entry in the journals; errors name the event
that was dispatched, and slot 0 in either run.  Whatever comes next is answered alike.  If the posts
of handlers are the same, then so are the handlers, where they are stored and where they run. -/
theorem line_names_are_interchangeable (inHandlers : Bool) (region : Bytes) (bench : Bench)
    (left right : List Operation)
    (renamed : List.Forall₂ (·.Varies (.lineNames inHandlers) ·) left right) (steps : Nat) :
    let one := (start region bench).run (left.take steps)
    let other := (start region bench).run (right.take steps)
    other.dispatcher.toRecorder = one.dispatcher.toRecorder ∧
    (∀ slot, Option.Rel (Variation.lineNames inHandlers).Replaces
      (one.dispatcher.handler? slot) (other.dispatcher.handler? slot)) ∧
    other.bench.ran = one.bench.ran ∧ other.bench.chips = one.bench.chips ∧
    Option.Rel (PostQueue.Varies Event.Shares) one.bench.queue other.bench.queue ∧
    other.bench.queue.map (fun queue => (queue.waiting.length, queue.dropped)) =
      one.bench.queue.map (fun queue => (queue.waiting.length, queue.dropped)) ∧
    List.Forall₂ (·.Varies (.lineNames inHandlers) ·) one.journal other.journal ∧
    one.RespondsAlike (.lineNames inHandlers) other ∧
    (∀ event, event.slot = .line 0 → one.dispatcher.isConfigured event = false →
      (one.dispatcher.dispatch event one.bench).result = .error ⟨event, 0⟩ ∧
        (other.dispatcher.dispatch event other.bench).result = .error ⟨event, 0⟩) ∧
    (inHandlers = false →
      (∀ slot, other.dispatcher.handler? slot = one.dispatcher.handler? slot) ∧
      (other.journal.filterMap Entry.dispatched?).map Dispatched.handler =
        (one.journal.filterMap Entry.dispatched?).map Dispatched.handler) := by
  intro one other
  have h : one.Varies (.lineNames inHandlers) other :=
    (Course.Varies.refl (.lineNames inHandlers) (start region bench) rfl).run
      (.of_forall₂ (List.forall₂_take steps renamed))
  have handlers : ∀ slot, Option.Rel (Variation.lineNames inHandlers).Replaces
      (one.dispatcher.handler? slot) (other.dispatcher.handler? slot) := by
    intro slot
    apply h.dispatcher.registry slot
    cases slot <;> rfl
  have alike := h.respondsAlike
  refine ⟨h.dispatcher.recorder, handlers, h.bench.ran, h.bench.chips, h.bench.queue,
    PostQueue.Varies.lengths h.bench.queue, h.journal.forall₂ Entry.not_isHidden_lineNames, alike,
    ?_, ?_⟩
  · intro event shared absent
    have absentOther : other.dispatcher.isConfigured event = false := by
      rw [alike.isConfigured event event (.inl rfl), absent]
    have unhandled : event.unhandled = .error ⟨event, 0⟩ := by
      rw [Event.unhandled, shared]
      rfl
    rw [Dispatcher.result_of_unconfigured absent, Dispatcher.result_of_unconfigured absentOther]
    exact ⟨unhandled, unhandled⟩
  · rintro rfl
    refine ⟨fun slot => Variation.eq_of_replaces_lineNames (handlers slot), ?_⟩
    rw [List.map_filterMap, List.map_filterMap]
    refine h.journal.filterMap_eq (fun entry hidden => ?_) fun entry entryOther varied => ?_
    · exact absurd hidden entry.not_isHidden_lineNames
    · cases varied with
      | dispatched made => exact congrArg some (Variation.eq_of_replaces_lineNames made.handler)
      | registered | installed | bufferSet | bufferTaken | countersReset => rfl

/-- A handler posts line 0 in one run and line 1 in the other while the queue is drained, where the
other line waits already; the third event finds the queue full. -/
theorem line_names_are_interchangeable_posted :
    let main : Handler := Script.handler { id := "main", runs := [[.report .txDone], [.look]] }
    let poster (event : Event) : Handler :=
      Script.handler { id := "poster", runs := [[.post event]] }
    let operations (first second : Event) : List Operation :=
      [.register (.line 0 main), .register (.timer .timer3 (poster first)), .dispatch first,
        .arrange fun bench => (bench.post 0 (.timer .timer3)).2,
        .arrange fun bench => (bench.post 0 second).2,
        .arrange fun bench => (bench.post 0 first).2,
        .drain fun _ _ => []]
    let course (first second : Event) (steps : Nat) : Course :=
      (start [] { queue := some { capacity := 2 } }).run ((operations first second).take steps)
    (course (.line 1) (.line 0) 6).bench.queue.map (fun queue =>
        (queue.waiting.length, queue.dropped)) = some (2, 1) ∧
      (course (.line 0) (.line 1) 7).bench.ran =
        [.ran "main" 1, .ran "poster" 1, .ran "main" 2, .ran "main" 3] ∧
      (course (.line 1) (.line 0) 7).bench.ran = (course (.line 0) (.line 1) 7).bench.ran ∧
      (course (.line 1) (.line 0) 7).dispatcher.toRecorder =
        (course (.line 0) (.line 1) 7).dispatcher.toRecorder := by
  intro main poster operations course
  have there : Event.Shares (.line 0) (.line 1) := .inr ⟨rfl, rfl⟩
  have back : Event.Shares (.line 1) (.line 0) := .inr ⟨rfl, rfl⟩
  have posters : (poster (.line 0)).Varies Event.Shares (poster (.line 1)) := by
    refine Script.handler_varies rfl fun run => ?_
    cases run with
    | zero => exact .cons (.post there) .nil
    | succ run => exact .nil
  have renamed : List.Forall₂ (·.Varies (.lineNames true) ·) (operations (.line 0) (.line 1))
      (operations (.line 1) (.line 0)) :=
    .cons (.register (.refl rfl)) (.cons (.register (.timer .timer3 posters))
      (.cons (.dispatch there) (.cons (Operation.varies_post 0 (.inl rfl))
        (.cons (Operation.varies_post 0 back) (.cons (Operation.varies_post 0 there)
          (.cons (.drain _) .nil))))))
  have interchangeable :=
    line_names_are_interchangeable true [] { queue := some { capacity := 2 } } _ _ renamed
  obtain ⟨-, -, -, -, -, lengths, -⟩ := interchangeable 6
  obtain ⟨recorder, -, ran, -⟩ := interchangeable 7
  exact ⟨lengths, rfl, ran, recorder⟩

end Course

end RadioInterrupt
