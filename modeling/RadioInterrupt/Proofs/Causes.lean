import RadioInterrupt.Proofs.Delivery
import RadioInterrupt.Proofs.Servicing

/-!
# No cause is lost between the chip and the dispatcher

Producers latch a cause on the chip and post an event for it later; drains dispatch the events to
the handler that services the chip.  A drain may be one step, or it may be taken apart: the loop
takes an event, dispatches it and takes the next one, and producers come in at any point between
(`Session.Dispatch.Polling`).  Causes and events pass through two queues that know nothing of each
other, and only that of the events can refuse one.  `Session.Dispatch.Coupled` is what ties them
together: for each event that waits or is in the hand of the loop, and for each cause that has not
been followed by its post, there is a cause on the chip.  `Session.Dispatch.Progress` is what steps
add up to.
-/

namespace RadioInterrupt

/-! ## Steps of producers and of the polling loop -/

namespace Session.Dispatch

def Step.latched? : Step → Option Cause
  | .latch cause => some cause
  | _ => none

def Step.isPost : Step → Bool
  | .post _ _ => true
  | _ => false

def Step.isCoupled : Step → Bool
  | .post _ event => event = .line 0 ∨ event = .line 1
  | .register request => (request.writes (.line 0)).isEmpty
  | .install _ | .dispatch _ | .newRadio _ | .installRadio _ | .newQueue _ | .dropQueue | .tryNext
  | .poll _ => false
  | _ => true

/-- The event in the hand of the polling loop, which has taken it and not dispatched it yet. -/
def Step.handAfter (hand : Option Event) : Step → Answer → Option Event
  | .tryNext, .event found => found
  | .dispatch _, _ => none
  | _, _ => hand

/-- Steps of producers, or of a loop that takes and drains with an empty hand and dispatches what it
has taken. -/
def Step.fitsHand (hand : Option Event) : Step → Bool
  | .tryNext | .drain => hand.isNone
  | .dispatch event => hand = some event
  | step => step.isCoupled

def handAfter (hand : Option Event) (steps : List Step) (answers : List Answer) : Option Event :=
  (steps.zip answers).foldl (fun hand made => made.1.handAfter hand made.2) hand

def Polling (session : Dispatch) (hand : Option Event) : List Step → Prop
  | [] => True
  | step :: steps =>
      step.fitsHand hand = true ∧
        match session.step step with
        | .error _ => True
        | .ok (answer, next) => next.Polling (step.handAfter hand answer) steps

theorem polling_of_isCoupled (session : Dispatch) {steps : List Step}
    (allowed : ∀ step ∈ steps, step.isCoupled = true) :
    session.Polling none steps ∧ ∀ answers, handAfter none steps answers = none := by
  induction steps generalizing session with
  | nil => exact ⟨trivial, fun _ => rfl⟩
  | cons step steps ih =>
      have coupled := allowed step List.mem_cons_self
      have fits : step.fitsHand none = true := by
        cases step with
        | tryNext | dispatch => cases coupled
        | _ => exact coupled
      have empty (answer : Answer) : step.handAfter none answer = none := by
        cases step with
        | tryNext | dispatch => cases coupled
        | _ => rfl
      have rest (next : Dispatch) := ih next fun other h => allowed other (List.mem_cons_of_mem _ h)
      refine ⟨⟨fits, ?_⟩, fun answers => ?_⟩
      · rcases session.step step with error | ⟨answer, next⟩
        · trivial
        · change next.Polling (step.handAfter none answer) steps
          rw [empty answer]
          exact (rest next).1
      · cases answers with
        | nil => rfl
        | cons answer answers =>
            rw [handAfter, List.zip_cons_cons, List.foldl_cons, empty answer]
            exact (rest session).2 answers

/-- The step is a whole drain, or the loop finds that nothing waits. -/
def Step.EndsDrain : Step → Answer → Prop
  | .drain, _ => True
  | .tryNext, answer => answer = .event none
  | _, _ => False

def EndDrain (steps : List Step) (answers : List Answer) : Prop :=
  steps.getLast? = some .drain ∨
    steps.getLast? = some .tryNext ∧ answers.getLast? = some (.event none)

/-- How many causes have yet to be followed by a post. -/
def Step.owedAfter (owed : Nat) : Step → Nat
  | .latch _ => owed + 1
  | .post _ _ => owed - 1
  | _ => owed

def Answer.isAccepted : Answer → Bool
  | .posted .accepted => true
  | _ => false

def Answer.isRefused : Answer → Bool
  | .posted (.refused _) => true
  | _ => false

def Answer.results : Answer → List (Except Unconfigured Outcome)
  | .dispatched result => [result]
  | .drained made => made.map Prod.snd
  | _ => []

def reports (session : Dispatch) : Step → List (List Report)
  | .dispatch event => [session.dispatcher.reports event session.bench]
  | .drain =>
      Dispatcher.drainReports (fun _ _ => []) Dispatcher.drainLimit session.dispatcher
        session.bench
  | _ => []

structure Coupled (session : Dispatch) (radio : SimulatedRadio) (queue : PostQueue)
    (hand : Option Event) (owed : Nat) : Prop where
  driven : session.radio = some radio
  handler : session.dispatcher.handler? (.line 0) = some (.chipLine radio.chip)
  posted : session.bench.queue = some queue
  lines : ∀ event ∈ hand.toList ++ queue.waiting, event.slot = .line 0
  within : queue.waiting.length ≤ queue.capacity
  capacity : queue.capacity ≤ Channel.capacityLimit
  covered : (hand.toList ++ queue.waiting).length + owed ≤
    (session.bench.chips radio.chip).pending.length

/-- What steps add up to that latched the causes and gave the answers. -/
structure Progress (number : Nat) (session : Dispatch) (queue : PostQueue) (hand : Option Event)
    (latched : List Cause) (answers : List Answer) (reports : List (List Report))
    (last : Dispatch) (left : PostQueue) (held : Option Event) : Prop where
  causes : ∃ serviced,
    (session.bench.chips number).pending ++ latched =
      serviced ++ (last.bench.chips number).pending ∧
      List.Forall₂ Cause.ServicedBy serviced reports
  results : answers.flatMap Answer.results = reports.map Report.resultOf
  events : (hand.toList ++ queue.waiting).length + answers.countP Answer.isAccepted =
    reports.length + (held.toList ++ left.waiting).length
  dropped : left.dropped = queue.dropped + .ofNat (answers.countP Answer.isRefused)

namespace Progress

variable {number : Nat} {session middle last : Dispatch} {queue between left : PostQueue}
  {hand meanwhile held : Option Event}

theorem refl (number : Nat) (session : Dispatch) (queue : PostQueue) (hand : Option Event) :
    Progress number session queue hand [] [] [] session queue hand where
  causes := ⟨[], List.append_nil _, .nil⟩
  results := rfl
  events := Nat.add_comm _ _
  dropped := (UInt64.add_zero _).symm

theorem undispatched {latched : List Cause} {answer : Answer}
    (pending : (last.bench.chips number).pending =
      (session.bench.chips number).pending ++ latched)
    (silent : answer.results = [])
    (events : (hand.toList ++ queue.waiting).length + [answer].countP Answer.isAccepted =
      (held.toList ++ left.waiting).length)
    (dropped : left.dropped = queue.dropped + .ofNat ([answer].countP Answer.isRefused)) :
    Progress number session queue hand latched [answer] [] last left held where
  causes := ⟨[], pending.symm, .nil⟩
  results := by
    rw [List.flatMap_singleton, silent]
    rfl
  events := events.trans (Nat.zero_add _).symm
  dropped := dropped

theorem trans {latched later : List Cause} {answers rest : List Answer}
    {reports others : List (List Report)}
    (first : Progress number session queue hand latched answers reports middle between meanwhile)
    (second : Progress number middle between meanwhile later rest others last left held) :
    Progress number session queue hand (latched ++ later) (answers ++ rest) (reports ++ others)
      last left held where
  causes := by
    obtain ⟨serviced, split, all⟩ := first.causes
    obtain ⟨next, splitNext, allNext⟩ := second.causes
    refine ⟨serviced ++ next, ?_, List.rel_append all allNext⟩
    rw [← List.append_assoc, split, List.append_assoc, splitNext, List.append_assoc]
  results := by
    rw [List.flatMap_append, first.results, second.results, List.map_append]
  events := by
    have front := first.events
    have back := second.events
    simp only [List.countP_append, List.length_append] at front back ⊢
    omega
  dropped := by
    rw [second.dropped, first.dropped, List.countP_append, UInt64.ofNat_add, UInt64.add_assoc]

end Progress

structure Advance (session : Dispatch) (radio : SimulatedRadio) (queue : PostQueue)
    (hand : Option Event) (owed : Nat) (step : Step) (answer : Answer) (next : Dispatch)
    (left : PostQueue) : Prop where
  acted : session.act step = .ok (answer, next)
  coupled : next.Coupled radio left (step.handAfter hand answer) (step.owedAfter owed)
  progress : Progress radio.chip session queue hand step.latched?.toList [answer]
    (session.reports step) next left (step.handAfter hand answer)
  ended : step.EndsDrain answer → step.handAfter hand answer = none ∧ left.waiting = []

theorem performCommand_next {session : Dispatch} {radio : SimulatedRadio}
    (driven : session.radio = some radio) (command : Command) :
    (session.performCommand command).2 =
      { session with bench := (radio.perform command session.bench).2 } := by
  simp only [performCommand, driven]
  rcases radio.perform command session.bench with ⟨error | done, left⟩ <;> rfl

theorem performCommand_silent (session : Dispatch) (command : Command) :
    (session.performCommand command).1.results = [] ∧
      (session.performCommand command).1.isAccepted = false ∧
      (session.performCommand command).1.isRefused = false := by
  cases driven : session.radio with
  | none =>
      simp only [performCommand, driven]
      exact ⟨rfl, rfl, rfl⟩
  | some radio =>
      simp only [performCommand, driven]
      rcases radio.perform command session.bench with ⟨error | done, left⟩ <;>
        exact ⟨rfl, rfl, rfl⟩

namespace Coupled

variable {session : Dispatch} {radio : SimulatedRadio} {queue : PostQueue} {hand : Option Event}
  {owed : Nat}

theorem advance_of_still (h : session.Coupled radio queue hand owed) {step : Step} {answer : Answer}
    {next : Dispatch} (senders : List Bool) (acted : session.act step = .ok (answer, next))
    (still : step.owedAfter owed = owed ∧ step.handAfter hand answer = hand ∧
      step.latched? = none ∧ session.reports step = [])
    (other : ¬ step.EndsDrain answer)
    (silent : answer.results = [] ∧ answer.isAccepted = false ∧ answer.isRefused = false)
    (driven : next.radio = session.radio)
    (handler : next.dispatcher.handler? (.line 0) = session.dispatcher.handler? (.line 0))
    (pending : (next.bench.chips radio.chip).pending = (session.bench.chips radio.chip).pending)
    (posted : next.bench.queue = some { queue with senders }) :
    session.Advance radio queue hand owed step answer next { queue with senders } where
  acted := acted
  coupled := by
    rw [still.1, still.2.1]
    exact ⟨driven.trans h.driven, handler.trans h.handler, posted, h.lines, h.within, h.capacity,
      pending ▸ h.covered⟩
  progress := by
    rw [still.2.1, still.2.2.1, still.2.2.2]
    refine .undispatched (pending.trans (List.append_nil _).symm) silent.1 ?_ ?_
    · rw [List.countP_singleton, silent.2.1]
      rfl
    · rw [List.countP_singleton, silent.2.2]
      exact (UInt64.add_zero _).symm
  ended := fun ends => absurd ends other

theorem advance_latch (h : session.Coupled radio queue hand owed) (cause : Cause) :
    ∃ answer next left, session.Advance radio queue hand owed (.latch cause) answer next left := by
  let latched := (session.bench.chips radio.chip).latch cause
  let next : Dispatch := { session with bench := session.bench.setChip radio.chip latched }
  have acted : session.act (.latch cause) = .ok (.nothing, next) := by
    simp only [act, h.driven, next, latched]
  have pending : (next.bench.chips radio.chip).pending =
      (session.bench.chips radio.chip).pending ++ [cause] := by
    change ((session.bench.setChip radio.chip latched).chips radio.chip).pending = _
    rw [Bench.chips_setChip_self]
    rfl
  refine ⟨.nothing, next, queue, acted, ?_,
    .undispatched pending rfl rfl (UInt64.add_zero _).symm, False.elim⟩
  refine ⟨h.driven, h.handler, h.posted, h.lines, h.within, h.capacity, ?_⟩
  rw [pending, List.length_append, List.length_append]
  have covered := h.covered
  rw [List.length_append] at covered
  exact Nat.succ_le_succ covered

theorem advance_posted (h : session.Coupled radio queue hand owed) {sender : Nat} {event : Event}
    {answer : PostAnswer} {left : PostQueue} (due : 0 < owed)
    (answered : (session.bench.post sender event).1 = answer)
    (posted : (session.bench.post sender event).2.queue = some left)
    (lines : ∀ event ∈ left.waiting, event.slot = .line 0)
    (within : left.waiting.length ≤ left.capacity) (capacity : left.capacity = queue.capacity)
    (events : queue.waiting.length + [Answer.posted answer].countP Answer.isAccepted =
      left.waiting.length)
    (dropped : left.dropped =
      queue.dropped + .ofNat ([Answer.posted answer].countP Answer.isRefused)) :
    ∃ answer next left,
      session.Advance radio queue hand owed (.post sender event) answer next left := by
  let next : Dispatch := { session with bench := (session.bench.post sender event).2 }
  have chips : next.bench.chips = session.bench.chips := Bench.chips_post _ _ _
  have both : ∀ event ∈ hand.toList ++ left.waiting, event.slot = .line 0 :=
    List.forall_mem_append.mpr ⟨(List.forall_mem_append.mp h.lines).1, lines⟩
  refine ⟨.posted answer, next, left, ?_, ?_, .undispatched ?_ rfl ?_ dropped, False.elim⟩
  · rw [act, ← answered]
  · have more : left.waiting.length ≤ queue.waiting.length + 1 := by
      rw [← events]
      exact Nat.add_le_add_left List.countP_le_length _
    have covered := h.covered
    refine ⟨h.driven, h.handler, posted, both, within, capacity ▸ h.capacity, ?_⟩
    change (hand.toList ++ left.waiting).length + (owed - 1) ≤ _
    rw [chips]
    rw [List.length_append] at covered ⊢
    omega
  · rw [chips]
    exact (List.append_nil _).symm
  · rw [List.length_append, Nat.add_assoc, events]
    exact List.length_append.symm

theorem advance_post (h : session.Coupled radio queue hand owed) (sender : Nat) {event : Event}
    (line : event.slot = .line 0) (due : 0 < owed) :
    ∃ answer next left,
      session.Advance radio queue hand owed (.post sender event) answer next left := by
  have answered := session.bench.answer_post_eq sender event
  have posted := session.bench.queue_post sender event
  rw [h.posted, Option.elim_some] at answered
  rw [h.posted, Option.map_some] at posted
  have lines := (List.forall_mem_append.mp h.lines).2
  cases live : queue.isLive sender with
  | false =>
      rw [live, if_neg nofun] at answered posted
      exact h.advance_posted due answered posted lines h.within rfl rfl
        (UInt64.add_zero _).symm
  | true =>
      rw [if_pos live] at answered posted
      cases alive : queue.receiving with
      | false =>
          rw [PostQueue.post_of_closed alive] at answered posted
          exact h.advance_posted due answered posted lines h.within rfl rfl rfl
      | true =>
          by_cases room : queue.waiting.length < queue.capacity
          · rw [PostQueue.post_of_room alive room] at answered posted
            refine h.advance_posted due answered posted ?_ ?_ rfl ?_ (UInt64.add_zero _).symm
            · exact List.forall_mem_append.mpr ⟨lines, List.forall_mem_singleton.mpr line⟩
            · rw [List.length_append]
              exact room
            · rw [List.length_append]
              rfl
          · rw [PostQueue.post_of_full alive (Nat.le_of_not_lt room)] at answered posted
            exact h.advance_posted due answered posted lines h.within rfl rfl rfl

theorem advance_tryNext (h : session.Coupled radio queue none owed) :
    ∃ answer next left, session.Advance radio queue none owed .tryNext answer next left := by
  cases hwaiting : queue.waiting with
  | nil =>
      have nothing : session.bench.waiting = [] := by
        rw [Bench.waiting, h.posted]
        exact hwaiting
      have acted : session.act .tryNext = .ok (.event none, session) := by
        rw [act, Bench.tryNext_of_nil nothing]
      exact ⟨.event none, session, queue, acted, h,
        .undispatched (List.append_nil _).symm rfl rfl (UInt64.add_zero _).symm,
        fun _ => ⟨rfl, hwaiting⟩⟩
  | cons event others =>
      let left : PostQueue := { queue with waiting := others }
      let next : Dispatch :=
        { session with bench := { session.bench with queue := some left } }
      have acted : session.act .tryNext = .ok (.event (some event), next) := by
        rw [act, Bench.tryNext_of_cons h.posted hwaiting]
      have lines := h.lines
      have within := h.within
      have covered := h.covered
      rw [hwaiting] at lines within covered
      refine ⟨.event (some event), next, left, acted, ?_,
        .undispatched (List.append_nil _).symm rfl ?_ (UInt64.add_zero _).symm, ?_⟩
      · exact ⟨h.driven, h.handler, rfl, lines, Nat.le_of_succ_le within, h.capacity, covered⟩
      · rw [hwaiting]
        rfl
      · intro found
        cases found

theorem advance_dispatch {event : Event} (h : session.Coupled radio queue (some event) owed) :
    ∃ answer next left,
      session.Advance radio queue (some event) owed (.dispatch event) answer next left := by
  have reached : session.dispatcher.handler? event.slot = some (.chipLine radio.chip) := by
    rw [h.lines event List.mem_cons_self, h.handler]
  have covered := h.covered
  obtain ⟨cause, rest, oldest⟩ : ∃ cause rest,
      (session.bench.chips radio.chip).pending = cause :: rest := by
    refine List.exists_cons_of_length_pos (Nat.lt_of_lt_of_le ?_ covered)
    exact Nat.lt_of_lt_of_le (Nat.succ_pos _) (Nat.le_add_right _ _)
  let run := session.dispatcher.dispatch event session.bench
  let next : Dispatch := { session with dispatcher := run.dispatcher, bench := run.bench }
  have pending : (next.bench.chips radio.chip).pending = rest :=
    Dispatcher.pending_dispatch reached oldest
  have result : run.result = Report.resultOf (session.dispatcher.reports event session.bench) :=
    Dispatcher.result_of_some reached session.bench
  refine ⟨.dispatched run.result, next, queue, rfl, ?_, ⟨⟨[cause], ?_, ?_⟩, ?_, ?_, ?_⟩, ?_⟩
  · refine ⟨h.driven, Dispatcher.handler?_dispatch_chipLine h.handler event session.bench,
      (Dispatcher.queue_dispatch reached oldest).trans h.posted,
      fun other member => h.lines other (List.mem_cons_of_mem event member), h.within, h.capacity,
      ?_⟩
    rw [oldest, List.length_cons, Option.toList_some, List.singleton_append, List.length_cons,
      Nat.add_right_comm] at covered
    rw [pending]
    exact Nat.le_of_succ_le_succ covered
  · rw [pending, oldest]
    exact List.append_nil _
  · exact .cons (Dispatcher.servicedBy_reports reached oldest) .nil
  · exact congrArg (fun result => [result]) result
  · exact Nat.add_comm queue.waiting.length 1
  · exact (UInt64.add_zero _).symm
  · exact False.elim

theorem advance_drain (h : session.Coupled radio queue none owed) :
    ∃ answer next left, session.Advance radio queue none owed .drain answer next left := by
  have enough : queue.waiting.length ≤ (session.bench.chips radio.chip).pending.length :=
    (Nat.le_add_right _ _).trans h.covered
  have served := Dispatcher.services_drain (fun _ _ => []) h.handler h.posted h.lines enough
    (h.within.trans h.capacity)
  let run := session.dispatcher.drain session.bench
  let next : Dispatch := { session with dispatcher := run.dispatcher, bench := run.bench }
  obtain ⟨serviced, split, all⟩ := served.causes
  -- Each event took its own cause, so that those whose post is to come are left.
  have owed_le : 0 + owed ≤ (next.bench.chips radio.chip).pending.length := by
    have lengths := congrArg List.length split
    have covered : queue.waiting.length + owed ≤ _ := h.covered
    rw [List.length_append, all.length_eq, served.length] at lengths
    rw [lengths] at covered
    rw [Nat.zero_add]
    exact Nat.le_of_add_le_add_left covered
  refine ⟨.drained run.outcomes, next, { queue with waiting := [] }, rfl, ?_, ?_,
    fun _ => ⟨rfl, rfl⟩⟩
  · exact ⟨h.driven, served.handler, served.emptied, nofun, Nat.zero_le _, h.capacity, owed_le⟩
  · refine ⟨⟨serviced, ?_, all⟩, ?_, ?_, ?_⟩
    · exact (List.append_nil _).trans split
    · exact (List.append_nil _).trans served.results
    · exact congrArg (· + 0) served.length.symm
    · exact (UInt64.add_zero _).symm

theorem advance (h : session.Coupled radio queue hand owed) {step : Step}
    (allowed : step.fitsHand hand = true) (due : step.isPost = true → 0 < owed) :
    ∃ answer next left, session.Advance radio queue hand owed step answer next left := by
  cases step with
  | latch cause => exact h.advance_latch cause
  | drain =>
      obtain rfl : hand = none := Option.isNone_iff_eq_none.mp allowed
      exact h.advance_drain
  | tryNext =>
      obtain rfl : hand = none := Option.isNone_iff_eq_none.mp allowed
      exact h.advance_tryNext
  | dispatch event =>
      obtain rfl : hand = some event := of_decide_eq_true allowed
      exact h.advance_dispatch
  | post sender event =>
      have line : event.slot = .line 0 := by
        rcases of_decide_eq_true allowed with rfl | rfl <;> rfl
      exact h.advance_post sender line (due rfl)
  | register request =>
      have untouched : request.writes (.line 0) = [] := List.isEmpty_iff.mp allowed
      refine ⟨_, _, _, h.advance_of_still queue.senders rfl ⟨rfl, rfl, rfl, rfl⟩
        id ⟨rfl, rfl, rfl⟩ rfl ?_ rfl h.posted⟩
      change (session.dispatcher.toRegistry.perform request).2.1.handler? (.line 0) = _
      rw [Registry.handler?_perform, untouched]
      rfl
  | command command =>
      have same := performCommand_next h.driven command
      have silent := session.performCommand_silent command
      refine ⟨(session.performCommand command).1, (session.performCommand command).2, _,
        h.advance_of_still queue.senders rfl ⟨rfl, rfl, rfl, rfl⟩ id silent ?_ ?_ ?_ ?_⟩
      · rw [same]
      · rw [same]
      · rw [same]
        exact radio.pending_perform command session.bench
      · rw [same]
        exact (radio.queue_perform command session.bench).trans h.posted
  | cloneSender =>
      refine ⟨_, _, _, h.advance_of_still (queue.senders ++ [true]) rfl ⟨rfl, rfl, rfl, rfl⟩
        id ⟨rfl, rfl, rfl⟩ rfl rfl rfl ?_⟩
      exact congrArg (Option.map PostQueue.cloneSender) h.posted
  | dropSender sender =>
      refine ⟨_, _, _, h.advance_of_still (queue.senders.set sender false) rfl ⟨rfl, rfl, rfl, rfl⟩
        id ⟨rfl, rfl, rfl⟩ rfl rfl rfl ?_⟩
      exact congrArg (Option.map (PostQueue.dropSender · sender)) h.posted
  | setBuffer destination =>
      refine ⟨_, _, _, h.advance_of_still queue.senders rfl ⟨rfl, rfl, rfl, rfl⟩
        id ⟨rfl, rfl, rfl⟩ rfl ?_ rfl h.posted⟩
      change Registry.handler? (Option.elim (destination.take session.spare).1 session.dispatcher
        session.dispatcher.setBuffer).toRegistry _ = _
      cases (destination.take session.spare).1 <;> rfl
  | chip =>
      refine ⟨_, _, _, h.advance_of_still queue.senders rfl ⟨rfl, rfl, rfl, rfl⟩
        id ?_ rfl rfl rfl h.posted⟩
      cases session.chip? <;> exact ⟨rfl, rfl, rfl⟩
  | isConfigured | takeBuffer | info | counters | resetCounters | watch | readWatches | dropped =>
      exact ⟨_, _, _, h.advance_of_still queue.senders rfl ⟨rfl, rfl, rfl, rfl⟩
        id ⟨rfl, rfl, rfl⟩ rfl rfl rfl h.posted⟩
  | install | newRadio | installRadio | newQueue | dropQueue | poll => cases allowed

/-! ## Runs -/

theorem run (h : session.Coupled radio queue hand owed) {steps : List Step}
    (allowed : session.Polling hand steps)
    (paired : ∀ count, (steps.take count).countP Step.isPost ≤
      owed + ((steps.take count).filterMap Step.latched?).length) :
    ∃ answers last left rest, session.run steps = .ok (answers, last) ∧
      last.Coupled radio left (handAfter hand steps answers) rest ∧
      Progress radio.chip session queue hand (steps.filterMap Step.latched?) answers
        (session.along reports steps) last left (handAfter hand steps answers) ∧
      (EndDrain steps answers → handAfter hand steps answers = none ∧ left.waiting = []) := by
  -- A cause that is latched is owed its post until it comes, which carries `paired` to the rest.
  induction steps generalizing session queue hand owed with
  | nil =>
      have unended : ¬ EndDrain [] [] := by simp [EndDrain]
      exact ⟨[], session, queue, owed, rfl, h, .refl _ _ _ _, fun ends => absurd ends unended⟩
  | cons step steps ih =>
      have quiet : session.quiet.Coupled radio queue hand owed :=
        ⟨h.driven, h.handler, h.posted, h.lines, h.within, h.capacity, h.covered⟩
      have due : step.isPost = true → 0 < owed := by
        intro isPost
        have one := paired 1
        cases step with
        | post sender event => exact one
        | _ => cases isPost
      obtain ⟨fits, later⟩ := allowed
      obtain ⟨answer, next, between, advanced⟩ := quiet.advance fits due
      have stepped : session.step step = .ok (answer, next) := advanced.acted
      rw [stepped] at later
      have pairedNext (count : Nat) : (steps.take count).countP Step.isPost ≤
          step.owedAfter owed + ((steps.take count).filterMap Step.latched?).length := by
        have whole := paired (count + 1)
        rw [List.take_succ_cons] at whole
        cases step with
        | latch cause =>
            have longer : (steps.take count).countP Step.isPost ≤
                owed + (((steps.take count).filterMap Step.latched?).length + 1) := whole
            rw [Step.owedAfter]
            omega
        | post sender event =>
            have positive := due rfl
            rw [List.countP_cons_of_pos rfl, List.filterMap_cons_none rfl] at whole
            rw [Step.owedAfter]
            omega
        | _ => exact whole
      obtain ⟨answers, last, left, rest, ran, coupled, progress, ended⟩ :=
        ih advanced.coupled later pairedNext
      refine ⟨answer :: answers, last, left, rest, run_cons stepped ran, coupled, ?_, ?_⟩
      · have both := advanced.progress.trans progress
        rw [along_cons reports stepped]
        have latched : (step :: steps).filterMap Step.latched? =
            step.latched?.toList ++ steps.filterMap Step.latched? := by
          rw [List.filterMap_cons]
          cases step.latched? <;> rfl
        rw [latched]
        exact ⟨both.causes, both.results, both.events, both.dropped⟩
      · intro ends
        cases steps with
        | nil =>
            obtain ⟨rfl, rfl⟩ := Prod.mk.inj (Except.ok.inj ran)
            obtain rfl : between = left :=
              Option.some.inj (advanced.coupled.posted.symm.trans coupled.posted)
            rcases ends with drained | ⟨took, found⟩
            · cases drained
              exact advanced.ended trivial
            · cases took
              exact advanced.ended (Option.some.inj found)
        | cons second steps =>
            obtain ⟨first, middle, others, -, -, rfl⟩ := exists_of_run_cons ran
            rw [EndDrain, List.getLast?_cons_cons, List.getLast?_cons_cons] at ends
            exact ended ends

end Coupled

structure Ready (session : Dispatch) (radio : SimulatedRadio) (queue : PostQueue) : Prop where
  driven : session.radio = some radio
  handler : session.dispatcher.handler? (.line 0) = some (.chipLine radio.chip)
  unlatched : (session.bench.chips radio.chip).pending = []
  posted : session.bench.queue = some queue
  new : ∃ capacity, PostQueue.make? capacity = some queue

theorem handler?_of_installRadio {session next : Dispatch} {timers : Bool}
    (installed : session.step (.installRadio timers) = .ok (.done, next)) :
    ∃ radio, next.radio = some radio ∧
      next.dispatcher.handler? (.line 0) = some (.chipLine radio.chip) := by
  cases driven : session.radio with
  | none =>
      have nothing : session.step (.installRadio timers) = .ok (.nothing, session.quiet) := by
        have same : session.quiet.radio = none := driven
        rw [step, act, same]
      rw [nothing] at installed
      cases installed
  | some radio =>
      have same : session.quiet.radio = some radio := driven
      have run : session.step (.installRadio timers) =
          .ok (session.quiet.installWith radio { timers }) := by
        rw [step, act, same]
      rw [run, Except.ok.injEq] at installed
      have answer : (session.quiet.installWith radio { timers }).1 = .done :=
        congrArg Prod.fst installed
      have left : (session.quiet.installWith radio { timers }).2 = next :=
        congrArg Prod.snd installed
      rw [← left]
      refine ⟨radio, driven, ?_⟩
      cases hresult : (session.quiet.dispatcher.install radio ({ timers } : SimulatedBoard)
          session.quiet.bench).result with
      | error error =>
          simp only [installWith, hresult] at answer
          cases answer
      | ok done =>
          exact radio.handler?_install session.quiet.dispatcher { timers } session.quiet.bench
            hresult

theorem exists_ready {session installed opened : Dispatch} {timers : Bool} {capacity : Nat}
    (succeeded : session.step (.installRadio timers) = .ok (.done, installed))
    (unlatched : ∀ chip, installed.chip? = some chip → chip.pending = [])
    (made : installed.step (.newQueue capacity) = .ok (.nothing, opened)) :
    ∃ radio queue, opened.Ready radio queue := by
  obtain ⟨radio, driven, handler⟩ := handler?_of_installRadio succeeded
  have latched : (installed.bench.chips radio.chip).pending = [] := by
    apply unlatched
    rw [chip?, driven, Option.map_some]
  rw [step, act] at made
  cases hmade : PostQueue.make? capacity with
  | none =>
      rw [hmade] at made
      cases made
  | some queue =>
      rw [hmade] at made
      obtain rfl := congrArg Prod.snd (Except.ok.inj made)
      exact ⟨radio, queue, driven, handler, latched, rfl, capacity, hmade⟩

theorem Ready.coupled {session : Dispatch} {radio : SimulatedRadio} {queue : PostQueue}
    (h : session.Ready radio queue) :
    session.Coupled radio queue none 0 ∧ queue.waiting = [] ∧ queue.dropped = 0 := by
  obtain ⟨capacity, made⟩ := h.new
  obtain ⟨fits, rfl⟩ := PostQueue.make?_eq_some_iff.mp made
  have small : max capacity 1 ≤ Channel.capacityLimit := Nat.max_le.mpr ⟨fits, by decide⟩
  exact ⟨⟨h.driven, h.handler, h.posted, List.forall_mem_nil _, Nat.zero_le _, small,
    Nat.zero_le _⟩, rfl, rfl⟩

/-- However posts and drains are mixed, where each event is posted for a cause that was latched
before, and at whatever points of a drain causes are latched and events posted: the dispatches
service the causes in the order in which they were latched, one each and none for nothing, and what
was not serviced is still latched.  When a drain is over as many causes are left as were latched and
not accepted for dispatch, and these are the posts that were refused once every cause has been
followed by its post. -/
theorem causes_serviced_in_order {opened : Dispatch} {radio : SimulatedRadio} {fresh : PostQueue}
    (ready : opened.Ready radio fresh) {steps : List Step} (allowed : opened.Polling none steps)
    (paired : ∀ count, (steps.take count).countP Step.isPost ≤
      ((steps.take count).filterMap Step.latched?).length) :
    ∃ answers last queue, opened.run steps = .ok (answers, last) ∧
      last.bench.queue = some queue ∧
      let latched := steps.filterMap Step.latched?
      let reports := opened.along reports steps
      let results := answers.flatMap Answer.results
      let pending := (last.bench.chips radio.chip).pending
      let accepted := answers.countP Answer.isAccepted
      let refused := answers.countP Answer.isRefused
      let hand := handAfter none steps answers
      results = reports.map Report.resultOf ∧ (∀ result ∈ results, result ≠ .ok .busy) ∧
      List.Forall₂ Cause.ServicedBy (latched.take results.length) reports ∧
      pending = latched.drop results.length ∧
      accepted = results.length + (hand.toList ++ queue.waiting).length ∧
      queue.dropped = .ofNat refused ∧
      (EndDrain steps answers →
        hand = none ∧ queue.waiting = [] ∧ pending.length + accepted = latched.length ∧
        (accepted + refused = latched.length →
          pending.length = refused ∧ queue.dropped = .ofNat pending.length)) := by
  obtain ⟨coupled, empty, undropped⟩ := ready.coupled
  have pairedFrom (count : Nat) : (steps.take count).countP Step.isPost ≤
      0 + ((steps.take count).filterMap Step.latched?).length := by
    rw [Nat.zero_add]
    exact paired count
  obtain ⟨answers, last, queue, rest, ran, left, progress, ended⟩ :=
    coupled.run allowed pairedFrom
  refine ⟨answers, last, queue, ran, left.posted, ?_⟩
  intro latched reports results pending accepted refused hand
  obtain ⟨serviced, split, all⟩ := progress.causes
  rw [ready.unlatched, List.nil_append] at split
  have length : serviced.length = results.length := by
    rw [all.length_eq, show results = _ from progress.results, List.length_map]
  have events : accepted = results.length + (hand.toList ++ queue.waiting).length := by
    have counted := progress.events
    rw [empty, ← all.length_eq, length] at counted
    exact (Nat.zero_add _).symm.trans counted
  have dropped : queue.dropped = .ofNat refused := by
    rw [progress.dropped, undropped, UInt64.zero_add]
  have served : latched.take results.length = serviced := by
    rw [show latched = _ from split, ← length, List.take_left]
  have kept : pending = latched.drop results.length := by
    rw [show latched = _ from split, ← length, List.drop_left]
  refine ⟨progress.results, ?_, served ▸ all, kept, events, dropped, ?_⟩
  · intro result member
    rw [show results = _ from progress.results, List.mem_map] at member
    obtain ⟨made, member, rfl⟩ := member
    exact Cause.resultOf_ne_of_mem all member
  · intro ends
    obtain ⟨emptied, nothing⟩ := ended ends
    have total : pending.length + accepted = latched.length := by
      have lengths := congrArg List.length split
      rw [List.length_append, length] at lengths
      rw [show hand = none from emptied, nothing] at events
      rw [events, Nat.add_comm]
      exact lengths.symm
    refine ⟨emptied, nothing, total, fun followed => ?_⟩
    have same : pending.length = refused := by omega
    exact ⟨same, same ▸ dropped⟩

/-- A cause is latched and posted for while the loop has the event of another in its hand, and a
third finds no place.  The loop services the first two, and the third is left as the one that was
dropped. -/
theorem causes_serviced_in_order_refused :
    let session : Dispatch := { radio := some { chip := 0 }, radiosMade := 1 }
    let steps : List Step :=
      [.latch .txDone, .post 0 (.line 0), .tryNext, .latch .headerError, .post 0 (.line 1),
        .latch .crcError, .post 0 (.line 0), .dispatch (.line 0), .tryNext, .dispatch (.line 1),
        .tryNext]
    ∃ installed opened answers last queue,
      session.step (.installRadio true) = .ok (.done, installed) ∧
      installed.step (.newQueue 1) = .ok (.nothing, opened) ∧
      opened.run steps = .ok (answers, last) ∧ last.bench.queue = some queue ∧
      answers.flatMap Answer.results = [.ok .txDone, .ok .rxError] ∧
      (last.bench.chips 0).pending = [.crcError] ∧ queue.dropped = 1 := by
  intro session steps
  let radio : SimulatedRadio := { chip := 0 }
  let board : SimulatedBoard := { timers := true }
  let installed : Dispatch := (session.quiet.installWith radio board).2
  let opened : Dispatch :=
    { installed.quiet with bench := { installed.quiet.bench with queue := some { capacity := 1 } } }
  have succeeded : session.step (.installRadio true) = .ok (.done, installed) := rfl
  have made : installed.step (.newQueue 1) = .ok (.nothing, opened) := rfl
  have unlatched (chip : Chip) (found : installed.chip? = some chip) : chip.pending = [] := by
    obtain rfl : _ = chip := Option.some.inj found
    rfl
  obtain ⟨driver, fresh, ready⟩ := exists_ready succeeded unlatched made
  obtain rfl : radio = driver := Option.some.inj ready.driven
  have paired (count : Nat) : (steps.take count).countP Step.isPost ≤
      ((steps.take count).filterMap Step.latched?).length := by
    have each : ∀ count ≤ 11, (steps.take count).countP Step.isPost ≤
        ((steps.take count).filterMap Step.latched?).length := by decide
    rw [List.take_eq_take_min]
    exact each _ (Nat.min_le_right count 11)
  have polling : opened.Polling none steps :=
    ⟨rfl, rfl, rfl, rfl, rfl, rfl, rfl, rfl, rfl, rfl, rfl, trivial⟩
  obtain ⟨answers, last, queue, ran, hqueue, results, -, -, pending, -, -, ended⟩ :=
    causes_serviced_in_order ready polling paired
  have answered : answers.countP Answer.isAccepted = 2 ∧ answers.countP Answer.isRefused = 1 ∧
      EndDrain steps answers := by
    obtain rfl : _ = answers := congrArg Prod.fst (Except.ok.inj ran)
    exact ⟨rfl, rfl, .inr ⟨rfl, rfl⟩⟩
  have both : answers.flatMap Answer.results = [.ok .txDone, .ok .rxError] := results
  have left : (last.bench.chips 0).pending = [.crcError] := by
    rw [both] at pending
    exact pending
  obtain ⟨-, -, -, followed⟩ := ended answered.2.2
  have dropped : queue.dropped = .ofNat (last.bench.chips 0).pending.length := by
    refine (followed ?_).2
    rw [answered.1, answered.2.1]
    rfl
  refine ⟨installed, opened, answers, last, queue, succeeded, made, ran, hqueue, both, left, ?_⟩
  rw [dropped, left]
  rfl

end Session.Dispatch

end RadioInterrupt
