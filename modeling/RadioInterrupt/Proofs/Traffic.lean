import RadioInterrupt.Drain
import RadioInterrupt.Proofs.Dispatch
import RadioInterrupt.Proofs.Lifetimes

/-!
# The traffic of a queue

Traffic is what senders and the receiver do to a queue, in the order in which it is done.
`PostQueue.Step` is one piece of it on a plain first-in first-out queue: a post is answered by
whether its sender and the receiver are there and by the room that is left, and events are taken
from the front.  `PostQueue.History` is a sequence of them.  While the receiver is there, the events
that were accepted are those that were taken followed by those that still wait.  Which senders are
there follows from the changes that are part of the traffic.

Handlers post while they run, so that dispatches and drains have traffic of their own.
-/

namespace RadioInterrupt

inductive Traffic where
  | posted (sender : Nat) (event : Event) (answer : PostAnswer)
  | taken (event : Event)
  | sender (change : SenderChange)
  | closed
  deriving DecidableEq, Repr

namespace Traffic

def accepted? : Traffic → Option Event
  | .posted _ event .accepted => some event
  | _ => none

def delivered? : Traffic → Option Event
  | .taken event => some event
  | _ => none

def isRefusal : Traffic → Bool
  | .posted _ _ (.refused _) => true
  | _ => false

def accepted (traffic : List Traffic) : List Event :=
  traffic.filterMap accepted?

def delivered (traffic : List Traffic) : List Event :=
  traffic.filterMap delivered?

def refusals (traffic : List Traffic) : Nat :=
  traffic.countP isRefusal

def change? : Traffic → Option SenderChange
  | .sender change => some change
  | _ => none

def changes (traffic : List Traffic) : List SenderChange :=
  traffic.filterMap change?

@[simp] theorem accepted_append (first second : List Traffic) :
    accepted (first ++ second) = accepted first ++ accepted second :=
  List.filterMap_append

@[simp] theorem delivered_append (first second : List Traffic) :
    delivered (first ++ second) = delivered first ++ delivered second :=
  List.filterMap_append

@[simp] theorem refusals_append (first second : List Traffic) :
    refusals (first ++ second) = refusals first + refusals second :=
  List.countP_append

@[simp] theorem changes_append (first second : List Traffic) :
    changes (first ++ second) = changes first ++ changes second :=
  List.filterMap_append

/-- Events are posted and taken, and both ends of the queue stay as they are. -/
def Exchanges (traffic : List Traffic) : Prop :=
  ∀ entry ∈ traffic, entry ≠ .closed ∧ entry.change? = none

namespace Exchanges

variable {traffic later : List Traffic}

theorem append (first : Exchanges traffic) (second : Exchanges later) :
    Exchanges (traffic ++ later) :=
  fun entry h => (List.mem_append.mp h).elim (first entry) (second entry)

theorem closed_not_mem (h : Exchanges traffic) : Traffic.closed ∉ traffic :=
  fun closed => (h _ closed).1 rfl

theorem changes_eq_nil (h : Exchanges traffic) : changes traffic = [] :=
  List.filterMap_eq_nil_iff.mpr fun entry member => (h entry member).2

end Exchanges

end Traffic

open SenderChange (Lives)
open Traffic (accepted changes delivered refusals)

def PostAnswer.ofPost : Except Refusal Unit → PostAnswer
  | .ok _ => .accepted
  | .error refusal => .refused refusal

namespace PostQueue

/-! ## Histories -/

inductive Step : PostQueue → Traffic → PostQueue → Prop
  | accept {queue sender event} (live : queue.isLive sender = true)
      (alive : queue.receiving = true) (room : queue.waiting.length < queue.capacity) :
      Step queue (.posted sender event .accepted)
        { queue with waiting := queue.waiting ++ [event] }
  | full {queue sender event} (live : queue.isLive sender = true)
      (alive : queue.receiving = true) (noRoom : queue.capacity ≤ queue.waiting.length) :
      Step queue (.posted sender event (.refused (.full event)))
        { queue with dropped := queue.dropped + 1 }
  | gone {queue sender event} (live : queue.isLive sender = true)
      (gone : queue.receiving = false) :
      Step queue (.posted sender event (.refused (.closed event)))
        { queue with dropped := queue.dropped + 1 }
  | unheard {queue sender event} (absent : queue.isLive sender = false) :
      Step queue (.posted sender event .noSender) queue
  | take {queue event others} (first : queue.waiting = event :: others) :
      Step queue (.taken event) { queue with waiting := others }
  | sender (queue change) : Step queue (.sender change) (queue.change change)
  | close (queue) : Step queue .closed queue.close

inductive History : PostQueue → List Traffic → PostQueue → Prop
  | idle (queue) : History queue [] queue
  | step {queue middle last entry traffic} (first : Step queue entry middle)
      (later : History middle traffic last) : History queue (entry :: traffic) last

theorem step_post {queue : PostQueue} {sender : Nat} (live : queue.isLive sender = true)
    (event : Event) :
    queue.Step (.posted sender event (.ofPost (queue.post event).1)) (queue.post event).2 := by
  cases alive : queue.receiving with
  | false =>
      rw [post_of_closed alive]
      exact .gone live alive
  | true =>
      by_cases room : queue.waiting.length < queue.capacity
      · rw [post_of_room alive room]
        exact .accept live alive room
      · have noRoom := Nat.le_of_not_lt room
        rw [post_of_full alive noRoom]
        exact .full live alive noRoom

namespace History

variable {queue middle last : PostQueue} {traffic later : List Traffic}

theorem append (first : queue.History traffic middle) (second : middle.History later last) :
    queue.History (traffic ++ later) last := by
  induction first with
  | idle queue => exact second
  | step entry _ ih => exact .step entry (ih second)

theorem split {whole : List Traffic} (h : queue.History whole last)
    (parts : whole = traffic ++ later) :
    ∃ middle, queue.History traffic middle ∧ middle.History later last := by
  induction h generalizing traffic with
  | idle queue =>
      obtain ⟨rfl, rfl⟩ := List.append_eq_nil_iff.mp parts.symm
      exact ⟨queue, .idle queue, .idle queue⟩
  | @step queue middle last entry rest first after ih =>
      cases traffic with
      | nil =>
          subst parts
          exact ⟨queue, .idle queue, .step first after⟩
      | cons head traffic =>
          obtain ⟨rfl, rfl⟩ := List.cons.inj parts
          obtain ⟨between, front, back⟩ := ih rfl
          exact ⟨between, .step first front, back⟩

end History

/-! ## What a history adds up to -/

structure Account (queue : PostQueue) (traffic : List Traffic) (last : PostQueue) : Prop where
  capacity : last.capacity = queue.capacity
  receiving : last.receiving = (queue.receiving && !traffic.contains .closed)
  within : queue.waiting.length ≤ queue.capacity → last.waiting.length ≤ last.capacity
  conserved : Traffic.closed ∉ traffic →
    queue.waiting ++ accepted traffic = delivered traffic ++ last.waiting
  dropped : last.dropped = queue.dropped + .ofNat (refusals traffic)

theorem account_refl (queue : PostQueue) : queue.Account [] queue where
  capacity := rfl
  receiving := (Bool.and_true _).symm
  within := id
  conserved _ := List.append_nil _
  dropped := (UInt64.add_zero _).symm

theorem account_refused (queue : PostQueue) (sender : Nat) (event : Event) (refusal : Refusal) :
    queue.Account [.posted sender event (.refused refusal)]
      { queue with dropped := queue.dropped + 1 } where
  capacity := rfl
  receiving := (Bool.and_true _).symm
  within := id
  conserved _ := List.append_nil _
  dropped := rfl

theorem account_step {queue last : PostQueue} {entry : Traffic} (h : queue.Step entry last) :
    queue.Account [entry] last := by
  cases h with
  | accept live alive room =>
      refine ⟨rfl, (Bool.and_true _).symm, ?_, fun _ => rfl, (UInt64.add_zero _).symm⟩
      intro _
      rw [List.length_append]
      exact room
  | full live alive noRoom => exact account_refused _ _ _ _
  | gone live gone => exact account_refused _ _ _ _
  | unheard absent =>
      exact ⟨rfl, (Bool.and_true _).symm, id, fun _ => List.append_nil _,
        (UInt64.add_zero _).symm⟩
  | sender change =>
      cases change <;> exact ⟨rfl, (Bool.and_true _).symm, id, fun _ => List.append_nil _,
        (UInt64.add_zero _).symm⟩
  | take first =>
      refine ⟨rfl, (Bool.and_true _).symm, ?_, ?_, (UInt64.add_zero _).symm⟩
      · intro within
        rw [first, List.length_cons] at within
        exact Nat.le_of_succ_le within
      · intro _
        rw [first]
        exact List.append_nil _
  | close =>
      refine ⟨rfl, (Bool.and_false _).symm, ?_, ?_, (UInt64.add_zero _).symm⟩
      · intro _
        exact Nat.zero_le _
      · intro unclosed
        exact absurd List.mem_cons_self unclosed

theorem Account.trans {queue middle last : PostQueue} {traffic later : List Traffic}
    (first : queue.Account traffic middle) (second : middle.Account later last) :
    queue.Account (traffic ++ later) last := by
  constructor
  · rw [second.capacity, first.capacity]
  · rw [second.receiving, first.receiving, Bool.and_assoc, List.contains_append, Bool.not_or]
  · exact second.within ∘ first.within
  · intro unclosed
    rw [List.mem_append, not_or] at unclosed
    rw [Traffic.accepted_append, Traffic.delivered_append, ← List.append_assoc,
      first.conserved unclosed.1, List.append_assoc, second.conserved unclosed.2,
      List.append_assoc]
  · rw [second.dropped, first.dropped, Traffic.refusals_append, UInt64.ofNat_add,
      UInt64.add_assoc]

theorem History.account {queue last : PostQueue} {traffic : List Traffic}
    (h : queue.History traffic last) : queue.Account traffic last := by
  induction h with
  | idle queue => exact account_refl queue
  | step first _ ih => exact (account_step first).trans ih

/-! ## Senders and answers -/

theorem Numbered.step {queue last : PostQueue} {past : List SenderChange} {entry : Traffic}
    (h : queue.Numbered past) (step : queue.Step entry last) :
    last.Numbered (past ++ changes [entry]) := by
  cases step with
  | sender change => exact h.change change
  | accept | full | gone | unheard | take | close =>
      rw [changes, List.filterMap_cons_none rfl, List.filterMap_nil, List.append_nil]
      exact h.congr rfl

theorem Numbered.history {queue last : PostQueue} {past : List SenderChange}
    {traffic : List Traffic} (h : queue.Numbered past) (history : queue.History traffic last) :
    last.Numbered (past ++ changes traffic) := by
  induction history generalizing past with
  | idle queue =>
      rw [changes, List.filterMap_nil, List.append_nil]
      exact h
  | @step queue middle last entry traffic first _ ih =>
      have after := ih (h.step first)
      rw [List.append_assoc, ← Traffic.changes_append] at after
      exact after

/-- The events that wait after the traffic, while the receiver is there. -/
def held (queue : PostQueue) (traffic : List Traffic) : List Event :=
  (queue.waiting ++ accepted traffic).drop (delivered traffic).length

/-- The answer to a post when so many events wait. -/
def dueAnswer (capacity : Nat) (receiving : Bool) (waiting : Nat) (event : Event) : PostAnswer :=
  if receiving = false then .refused (.closed event)
  else if waiting < capacity then .accepted
  else .refused (.full event)

theorem ofPost_post (queue : PostQueue) (event : Event) :
    PostAnswer.ofPost (queue.post event).1 =
      dueAnswer queue.capacity queue.receiving queue.waiting.length event := by
  cases alive : queue.receiving with
  | false =>
      rw [post_of_closed alive]
      rfl
  | true =>
      by_cases room : queue.waiting.length < queue.capacity
      · rw [post_of_room alive room, dueAnswer, if_neg nofun, if_pos room]
        rfl
      · rw [post_of_full alive (Nat.le_of_not_lt room), dueAnswer, if_neg nofun, if_neg room]
        rfl

theorem Step.answer {queue last : PostQueue} {sender : Nat} {event : Event} {answer : PostAnswer}
    (h : queue.Step (.posted sender event answer) last) :
    answer = if queue.isLive sender then
      dueAnswer queue.capacity queue.receiving queue.waiting.length event else .noSender := by
  cases h with
  | accept live alive room => rw [if_pos live, dueAnswer, alive, if_neg nofun, if_pos room]
  | full live alive noRoom =>
      rw [if_pos live, dueAnswer, alive, if_neg nofun, if_neg (Nat.not_lt.mpr noRoom)]
  | gone live gone => rw [if_pos live, dueAnswer, if_pos gone]
  | unheard absent => rw [absent, if_neg nofun]

namespace History

variable {queue last : PostQueue} {traffic : List Traffic}

theorem held_eq (h : queue.History traffic last) (unclosed : Traffic.closed ∉ traffic) :
    queue.held traffic = last.waiting := by
  rw [held, h.account.conserved unclosed, List.drop_left]

theorem answer {before after : List Traffic} {sender : Nat} {event : Event} {answer : PostAnswer}
    {past : List SenderChange}
    (h : queue.History (before ++ .posted sender event answer :: after) last)
    (numbered : queue.Numbered past) :
    (Lives (past ++ changes before) sender →
      answer = dueAnswer queue.capacity (queue.receiving && !before.contains .closed)
        (queue.held before).length event) ∧
    (¬ Lives (past ++ changes before) sender → answer = .noSender) := by
  obtain ⟨middle, front, back⟩ := h.split rfl
  cases back with
  | step post later =>
      -- What the traffic before the post adds up to is the queue that the post found.
      have due := post.answer
      rw [← (numbered.history front).live]
      constructor
      · intro live
        rw [due, if_pos live, front.account.capacity, ← front.account.receiving]
        cases alive : middle.receiving with
        | false => rfl
        | true =>
            have unclosed : Traffic.closed ∉ before := by
              have open_ := front.account.receiving
              rw [alive, eq_comm, Bool.and_eq_true] at open_
              simpa using open_.2
            rw [front.held_eq unclosed]
      · intro absent
        rw [due, if_neg absent]

end History

end PostQueue

/-! ## Traffic through a bench -/

namespace Bench

def waiting (bench : Bench) : List Event :=
  bench.queue.elim [] (·.waiting)

def History (before : Bench) (traffic : List Traffic) (after : Bench) : Prop :=
  ∀ queue, before.queue = some queue →
    ∃ left, after.queue = some left ∧ queue.History traffic left

theorem history_of_queue {before after : Bench} (same : after.queue = before.queue) :
    before.History [] after := by
  intro queue hqueue
  exact ⟨queue, same.trans hqueue, .idle queue⟩

namespace History

variable {before middle after : Bench} {traffic later : List Traffic}

theorem append (first : before.History traffic middle) (second : middle.History later after) :
    before.History (traffic ++ later) after := by
  intro queue hqueue
  obtain ⟨between, hbetween, front⟩ := first queue hqueue
  obtain ⟨left, hleft, back⟩ := second between hbetween
  exact ⟨left, hleft, front.append back⟩

theorem congr_left {start : Bench} (h : before.History traffic after)
    (same : before.queue = start.queue) : start.History traffic after := by
  intro queue hqueue
  exact h queue (same.trans hqueue)

theorem congr_right {last : Bench} (h : before.History traffic after)
    (same : last.queue = after.queue) : before.History traffic last := by
  intro queue hqueue
  obtain ⟨left, hleft, history⟩ := h queue hqueue
  exact ⟨left, same.trans hleft, history⟩

end History

theorem history_post (bench : Bench) (sender : Nat) (event : Event) :
    bench.History [.posted sender event (bench.post sender event).1]
      (bench.post sender event).2 := by
  intro queue hqueue
  simp only [post, hqueue]
  cases live : queue.isLive sender with
  | false => exact ⟨queue, hqueue, .step (.unheard live) (.idle queue)⟩
  | true =>
      have step := PostQueue.step_post live event
      rcases hposted : queue.post event with ⟨refusal | done, left⟩
      · rw [hposted] at step
        exact ⟨left, rfl, .step step (.idle left)⟩
      · rw [hposted] at step
        exact ⟨left, rfl, .step step (.idle left)⟩

theorem answer_post {bench : Bench} {queue : PostQueue} (hqueue : bench.queue = some queue)
    {sender : Nat} (live : queue.isLive sender = true) (event : Event) :
    (bench.post sender event).1 =
      PostQueue.dueAnswer queue.capacity queue.receiving queue.waiting.length event := by
  rw [← queue.ofPost_post event]
  simp only [post, hqueue, live, if_true]
  rcases queue.post event with ⟨refusal | done, left⟩ <;> rfl

theorem history_tryNext (bench : Bench) :
    bench.History (bench.tryNext.1.toList.map .taken) bench.tryNext.2 := by
  intro queue hqueue
  simp only [tryNext, hqueue]
  cases hwaiting : queue.waiting with
  | nil =>
      rw [PostQueue.tryNext_of_nil hwaiting]
      exact ⟨queue, rfl, .idle queue⟩
  | cons event others =>
      rw [PostQueue.tryNext_of_cons hwaiting]
      exact ⟨_, rfl, .step (.take hwaiting) (.idle _)⟩

theorem answer_post_eq (bench : Bench) (sender : Nat) (event : Event) :
    (bench.post sender event).1 = bench.queue.elim .noSender fun queue =>
      if queue.isLive sender then .ofPost (queue.post event).1 else .noSender := by
  cases hqueue : bench.queue with
  | none => simp only [post, hqueue, Option.elim_none]
  | some queue =>
      cases hlive : queue.isLive sender with
      | false => simp [post, hqueue, hlive]
      | true =>
          rw [answer_post hqueue hlive, Option.elim_some, if_pos hlive, PostQueue.ofPost_post]

theorem queue_post (bench : Bench) (sender : Nat) (event : Event) :
    (bench.post sender event).2.queue = bench.queue.map fun queue =>
      if queue.isLive sender then (queue.post event).2 else queue := by
  cases hqueue : bench.queue with
  | none => simp only [post, hqueue, Option.map_none]
  | some queue =>
      cases hlive : queue.isLive sender with
      | false => simp [post, hqueue, hlive]
      | true => rcases hposted : queue.post event with ⟨refusal | done, left⟩ <;>
          simp [post, hqueue, hlive, hposted]

theorem chips_post (bench : Bench) (sender : Nat) (event : Event) :
    (bench.post sender event).2.chips = bench.chips := by
  cases hqueue : bench.queue with
  | none => simp only [post, hqueue]
  | some queue =>
      cases hlive : queue.isLive sender with
      | false => simp [post, hqueue, hlive]
      | true => rcases hposted : queue.post event with ⟨refusal | done, left⟩ <;>
          simp [post, hqueue, hlive, hposted]

theorem tryNext_eq (bench : Bench) :
    bench.tryNext = (bench.queue.bind (·.tryNext.1),
      { bench with queue := bench.queue.map (·.tryNext.2) }) := by
  cases hqueue : bench.queue with
  | none =>
      simp only [tryNext, hqueue]
      exact Prod.ext rfl (congrArg (fun queue => { bench with queue }) hqueue)
  | some queue =>
      simp only [tryNext, hqueue]
      rfl

theorem fst_tryNext (bench : Bench) : bench.tryNext.1 = bench.waiting.head? := by
  rw [tryNext_eq, waiting]
  cases bench.queue with
  | none => rfl
  | some queue =>
      change queue.tryNext.1 = queue.waiting.head?
      cases hwaiting : queue.waiting with
      | nil => rw [PostQueue.tryNext_of_nil hwaiting, List.head?_nil]
      | cons event others => rw [PostQueue.tryNext_of_cons hwaiting, List.head?_cons]

theorem fst_tryNext_eq_none_iff {bench : Bench} :
    bench.tryNext.1 = none ↔ bench.waiting = [] := by
  rw [fst_tryNext, List.head?_eq_none_iff]

theorem tryNext_of_nil {bench : Bench} (nothing : bench.waiting = []) :
    bench.tryNext = (none, bench) := by
  rw [tryNext_eq]
  cases hqueue : bench.queue with
  | none => exact Prod.ext rfl (congrArg (fun queue => { bench with queue }) hqueue.symm)
  | some queue =>
      rw [waiting, hqueue] at nothing
      simp only [Option.bind_some, Option.map_some, PostQueue.tryNext_of_nil nothing]
      exact Prod.ext rfl (congrArg (fun queue => { bench with queue }) hqueue.symm)

theorem tryNext_of_cons {bench : Bench} {queue : PostQueue} {event : Event} {others : List Event}
    (hqueue : bench.queue = some queue) (hwaiting : queue.waiting = event :: others) :
    bench.tryNext =
      (some event, { bench with queue := some { queue with waiting := others } }) := by
  simp [tryNext, hqueue, PostQueue.tryNext_of_cons hwaiting]

end Bench

/-! ## Traffic of handlers -/

namespace Routine

variable {σ : Type} [ReportSink σ]

def traffic : Routine → σ → Bench → List Traffic
  | .done, _, _ => []
  | .report made next, sink, bench =>
      next.traffic (ReportSink.accept sink made).1 (bench.say (ReportSink.accept sink made).2)
  | .look next, sink, bench => (next (ReportSink.visible sink)).traffic sink bench
  | .post sender event next, sink, bench =>
      .posted sender event (bench.post sender event).1 ::
        (next (bench.post sender event).1).traffic sink (bench.post sender event).2
  | .note entry next, sink, bench => next.traffic sink (bench.note entry)

theorem history_run (routine : Routine) (sink : σ) (bench : Bench) :
    bench.History (routine.traffic sink bench) (routine.run sink bench).2 := by
  induction routine generalizing sink bench with
  | done => exact Bench.history_of_queue rfl
  | report made next ih => exact (ih _ _).congr_left rfl
  | look next ih => exact ih _ sink bench
  | post sender event next ih =>
      have first := bench.history_post sender event
      exact first.append (ih _ sink _)
  | note entry next ih => exact (ih sink _).congr_left rfl

theorem exists_of_mem_traffic {routine : Routine} {sink : σ} {bench : Bench} {entry : Traffic}
    (h : entry ∈ routine.traffic sink bench) :
    ∃ sender event answer, entry = .posted sender event answer := by
  induction routine generalizing sink bench with
  | done => cases h
  | report made next ih => exact ih h
  | look next ih => exact ih _ h
  | post sender event next ih =>
      rcases List.mem_cons.mp h with rfl | later
      · exact ⟨sender, event, _, rfl⟩
      · exact ih _ later
  | note entry next ih => exact ih h

end Routine

namespace Handler

def traffic (handler : Handler) (recorder : Recorder) (bench : Bench) : List Traffic :=
  (handler.start bench).1.traffic recorder (handler.start bench).2

theorem queue_start (handler : Handler) (bench : Bench) :
    (handler.start bench).2.queue = bench.queue := by
  cases handler with
  | routine behaviour runs => rfl
  | chipLine number =>
      cases hserviced : (bench.chips number).service with
      | none => simp [start, hserviced]
      | some serviced => simp [start, hserviced, Bench.setChip]
  | chipTimer number report => rfl

theorem history_run (handler : Handler) (recorder : Recorder) (bench : Bench) :
    bench.History (handler.traffic recorder bench) (handler.run recorder bench).2 :=
  ((handler.start bench).1.history_run recorder _).congr_left (handler.queue_start bench)

end Handler

namespace Dispatcher

def traffic (dispatcher : Dispatcher) (event : Event) (bench : Bench) : List Traffic :=
  (dispatcher.handler? event.slot).elim [] fun handler =>
    handler.traffic dispatcher.begin.toRecorder bench

theorem traffic_of_none {dispatcher : Dispatcher} {event : Event}
    (h : dispatcher.handler? event.slot = none) (bench : Bench) :
    dispatcher.traffic event bench = [] := by
  rw [traffic, h]
  rfl

theorem traffic_of_some {dispatcher : Dispatcher} {event : Event} {handler : Handler}
    (h : dispatcher.handler? event.slot = some handler) (bench : Bench) :
    dispatcher.traffic event bench = handler.traffic dispatcher.begin.toRecorder bench := by
  rw [traffic, h]
  rfl

theorem history_dispatch (dispatcher : Dispatcher) (event : Event) (bench : Bench) :
    bench.History (dispatcher.traffic event bench) (dispatcher.dispatch event bench).bench := by
  cases h : dispatcher.handler? event.slot with
  | none =>
      rw [traffic_of_none h, dispatch_of_none h, endUnhandled]
      cases event.slot <;> exact Bench.history_of_queue rfl
  | some handler =>
      rw [traffic_of_some h, dispatch_of_handler h]
      exact (handler.history_run _ bench).congr_right rfl

theorem exists_of_mem_traffic {dispatcher : Dispatcher} {event : Event} {bench : Bench}
    {entry : Traffic} (h : entry ∈ dispatcher.traffic event bench) :
    ∃ sender event answer, entry = .posted sender event answer := by
  cases hhandler : dispatcher.handler? event.slot with
  | none =>
      rw [traffic_of_none hhandler] at h
      cases h
  | some handler =>
      rw [traffic_of_some hhandler] at h
      exact Routine.exists_of_mem_traffic h

theorem exchanges_traffic (dispatcher : Dispatcher) (event : Event) (bench : Bench) :
    Traffic.Exchanges (dispatcher.traffic event bench) := by
  intro entry h
  obtain ⟨sender, event, answer, rfl⟩ := exists_of_mem_traffic h
  exact ⟨nofun, rfl⟩

theorem delivered_traffic (dispatcher : Dispatcher) (event : Event) (bench : Bench) :
    delivered (dispatcher.traffic event bench) = [] := by
  rw [delivered, List.filterMap_eq_nil_iff]
  intro entry h
  obtain ⟨sender, event, answer, rfl⟩ := exists_of_mem_traffic h
  rfl

/-! ## Traffic of a drain -/

/-- The traffic of at most so many dispatches of a drain. -/
def drainTraffic (announce : Announce) : Nat → Dispatcher → Bench → List Traffic
  | 0, _, _ => []
  | limit + 1, dispatcher, bench =>
      match bench.tryNext with
      | (none, _) => []
      | (some event, bench) =>
          let first := dispatcher.dispatch event bench
          .taken event :: dispatcher.traffic event bench ++
            drainTraffic announce limit first.dispatcher
              (first.bench.say (announce event first.result))

section

variable (announce : Announce) (limit : Nat) (dispatcher : Dispatcher) {bench : Bench}

theorem drainUpTo_of_nil (nothing : bench.waiting = []) :
    drainUpTo announce limit dispatcher bench = ⟨[], 0, dispatcher, bench⟩ := by
  cases limit with
  | zero => rfl
  | succ limit => rw [drainUpTo, Bench.tryNext_of_nil nothing]

end

variable (announce : Announce) (limit : Nat) (dispatcher : Dispatcher) (bench : Bench)

theorem exists_drain_eq :
    ∃ messages, dispatcher.drain bench announce =
      let run := drainUpTo announce drainLimit dispatcher bench
      { run with bench := run.bench.say messages } := by
  rw [drain]
  split
  · refine ⟨[], ?_⟩
    simp only [Bench.say_nil]
  · exact ⟨_, rfl⟩

theorem history_drainUpTo :
    bench.History (drainTraffic announce limit dispatcher bench)
      (drainUpTo announce limit dispatcher bench).bench := by
  induction limit generalizing dispatcher bench with
  | zero => exact Bench.history_of_queue rfl
  | succ limit ih =>
      have taking := bench.history_tryNext
      rw [drainTraffic, drainUpTo]
      generalize bench.tryNext = next at taking ⊢
      obtain ⟨found, left⟩ := next
      cases found with
      | none => exact taking
      | some event =>
          have dispatching := dispatcher.history_dispatch event left
          exact (taking.append dispatching).append ((ih _ _).congr_left rfl)

theorem delivered_drainTraffic :
    delivered (drainTraffic announce limit dispatcher bench) =
      (drainUpTo announce limit dispatcher bench).outcomes.map Prod.fst := by
  induction limit generalizing dispatcher bench with
  | zero => rfl
  | succ limit ih =>
      rw [drainTraffic, drainUpTo]
      generalize bench.tryNext = next
      obtain ⟨found, left⟩ := next
      cases found with
      | none => rfl
      | some event =>
          have later := ih (dispatcher.dispatch event left).dispatcher
            ((dispatcher.dispatch event left).bench.say
              (announce event (dispatcher.dispatch event left).result))
          simp only [Traffic.delivered_append, List.map_cons, ← later]
          change event :: delivered (dispatcher.traffic event left) ++ _ = _
          rw [delivered_traffic]
          rfl

theorem exchanges_drainTraffic :
    Traffic.Exchanges (drainTraffic announce limit dispatcher bench) := by
  induction limit generalizing dispatcher bench with
  | zero => exact List.forall_mem_nil _
  | succ limit ih =>
      rw [drainTraffic]
      generalize bench.tryNext = next
      obtain ⟨found, left⟩ := next
      cases found with
      | none => exact List.forall_mem_nil _
      | some event =>
          have taken : Traffic.Exchanges [.taken event] := by
            rintro _ (_ | ⟨_, ⟨⟩⟩)
            exact ⟨nofun, rfl⟩
          exact (taken.append (dispatcher.exchanges_traffic event left)).append (ih _ _)

end Dispatcher

end RadioInterrupt
