import RadioInterrupt.Proofs.Installation
import RadioInterrupt.Proofs.Traffic
import RadioInterrupt.Session.Dispatch

/-!
# What a queue accepts is delivered

A session may post through its senders, clone and drop them, take events in three ways and drop the
queue, in any order, while handlers post of their own.  What a step does to the queue is its
traffic, and the traffic of a session is a history of its queue.  Events are delivered by the
answers of steps, and every accepted event is delivered or still waits.  Which senders are there
follows from the steps that clone and drop them.
-/

namespace RadioInterrupt

open SenderChange (Lives made)
open Traffic (accepted changes delivered refusals)

/-! ## Drivers leave the queue alone -/

class SparesQueue (δ : Type) {β ε : Type} [Driver δ β ε] : Prop where
  bringUp : ∀ (driver : δ) (board : β) answers bench,
    (Driver.bringUp driver board answers bench).2.2.queue = bench.queue
  perform : ∀ (driver : δ) command bench,
    (Driver.perform driver command bench).2.2.queue = bench.queue

theorem ScriptedDriver.queue_noteAnswers (answers : List RequestAnswer) (bench : Bench) :
    (noteAnswers answers bench).queue = bench.queue := by
  induction answers generalizing bench with
  | nil => rfl
  | cons answer answers ih => exact ih (bench.note (.registered answer))

instance : SparesQueue ScriptedDriver where
  bringUp _ _ answers bench := ScriptedDriver.queue_noteAnswers answers bench
  perform _ _ _ := rfl

theorem SimulatedRadio.queue_perform (radio : SimulatedRadio) (request : Command)
    (bench : Bench) : (radio.perform request bench).2.queue = bench.queue := by
  rw [perform]
  cases command (bench.chips radio.chip) request <;> rfl

instance : SparesQueue SimulatedRadio where
  bringUp radio board answers bench := by
    change (radio.bringUp board bench).2.queue = _
    rw [SimulatedRadio.bringUp]
    cases radio.responsive <;> rfl
  perform radio command bench := radio.queue_perform command bench

theorem Dispatcher.queue_install {δ β ε : Type} [Driver δ β ε] [SparesQueue δ]
    (dispatcher : Dispatcher) (driver : δ) (board : β) (bench : Bench) :
    (dispatcher.install driver board bench).bench.queue = bench.queue :=
  dispatcher.read_install Bench.queue (fun _ _ => rfl) driver board bench
    (SparesQueue.bringUp driver board) fun driver => SparesQueue.perform driver .sleep

namespace Session.Dispatch

/-! ## The traffic of a step -/

def Step.keepsQueue : Step → Bool
  | .newQueue _ => false
  | _ => true

def postTraffic (bench : Bench) : List Event → List Traffic
  | [] => []
  | event :: events =>
      .posted 0 event (bench.post 0 event).1 :: postTraffic (bench.post 0 event).2 events

def foundTraffic : Poll Event → List Traffic
  | .pending => []
  | .ready found => found.toList.map .taken

def pollTraffic (bench : Bench) (between : Option (List Event)) : List Traffic :=
  match pollOnce bench, between with
  | (.pending, bench), some events =>
      postTraffic bench events ++ foundTraffic (pollOnce (postAll bench events).2).1
  | (found, _), _ => foundTraffic found

def traffic (session : Dispatch) : Step → List Traffic
  | .dispatch event => session.dispatcher.traffic event session.bench
  | .cloneSender => [.sender .cloned]
  | .dropSender sender => [.sender (.dropped sender)]
  | .dropQueue => [.closed]
  | .post sender event => [.posted sender event (session.bench.post sender event).1]
  | .tryNext => session.bench.tryNext.1.toList.map .taken
  | .poll between => pollTraffic session.bench between
  | .drain =>
      Dispatcher.drainTraffic (fun _ _ => []) Dispatcher.drainLimit session.dispatcher
        session.bench
  | _ => []

def Step.change? : Step → Option SenderChange
  | .cloneSender => some .cloned
  | .dropSender sender => some (.dropped sender)
  | _ => none

def Polled.event? : Polled → Option Event
  | .poll (.ready found) => found
  | _ => none

def Answer.events : Answer → List Event
  | .event found => found.toList
  | .polled found => found.filterMap Polled.event?
  | .drained made => made.map Prod.fst
  | _ => []

theorem pollOnce_of_cons {bench : Bench} {queue : PostQueue} (hqueue : bench.queue = some queue)
    {event : Event} {others : List Event} (first : queue.waiting = event :: others) :
    pollOnce bench =
      (.ready (some event), { bench with queue := some { queue with waiting := others } }) := by
  simp only [pollOnce, hqueue, PostQueue.poll_of_cons first]

theorem pollOnce_of_nil {bench : Bench} {queue : PostQueue} (hqueue : bench.queue = some queue)
    (nothing : queue.waiting = []) :
    pollOnce bench = (if queue.hasSender then .pending else .ready none, bench) := by
  simp only [pollOnce, hqueue, PostQueue.poll_of_nil nothing]
  exact Prod.ext rfl (congrArg (fun queue => { bench with queue }) hqueue.symm)

theorem pollBetween_of_ready {bench left : Bench} {found : Option Event}
    (h : pollOnce bench = (.ready found, left)) (between : Option (List Event)) :
    pollBetween bench between = ([.poll (.ready found)], left) := by
  unfold pollBetween
  rw [h]

theorem pollBetween_none (bench : Bench) :
    pollBetween bench none = ([.poll (pollOnce bench).1], (pollOnce bench).2) := by
  unfold pollBetween
  rcases pollOnce bench with ⟨_ | found, left⟩ <;> rfl

theorem pollBetween_of_pending {bench left : Bench} (h : pollOnce bench = (.pending, left))
    (events : List Event) :
    pollBetween bench (some events) =
      (.poll .pending :: (postAll left events).1 ++ [.poll (pollOnce (postAll left events).2).1],
        (pollOnce (postAll left events).2).2) := by
  unfold pollBetween
  rw [h]

theorem history_pollOnce (bench : Bench) :
    bench.History (foundTraffic (pollOnce bench).1) (pollOnce bench).2 := by
  intro queue hqueue
  cases hwaiting : queue.waiting with
  | nil =>
      rw [pollOnce_of_nil hqueue hwaiting]
      refine ⟨queue, hqueue, ?_⟩
      split <;> exact .idle queue
  | cons event others =>
      rw [pollOnce_of_cons hqueue hwaiting]
      exact ⟨_, rfl, .step (.take hwaiting) (.idle _)⟩

theorem history_postAll (bench : Bench) (events : List Event) :
    bench.History (postTraffic bench events) (postAll bench events).2 := by
  induction events generalizing bench with
  | nil => exact Bench.history_of_queue rfl
  | cons event events ih =>
      have first := bench.history_post 0 event
      exact first.append (ih (bench.post 0 event).2)

theorem history_pollBetween (bench : Bench) (between : Option (List Event)) :
    bench.History (pollTraffic bench between) (pollBetween bench between).2 := by
  have first := history_pollOnce bench
  unfold pollTraffic pollBetween
  generalize pollOnce bench = found at first ⊢
  obtain ⟨found, left⟩ := found
  cases found with
  | ready found => exact first
  | pending =>
      cases between with
      | none => exact first
      | some events =>
          have posts := history_postAll left events
          exact first.append (posts.append (history_pollOnce _))

theorem events_postAll (bench : Bench) (events : List Event) :
    (postAll bench events).1.filterMap Polled.event? = [] := by
  induction events generalizing bench with
  | nil => rfl
  | cons event events ih => exact ih (bench.post 0 event).2

theorem delivered_postTraffic (bench : Bench) (events : List Event) :
    delivered (postTraffic bench events) = [] := by
  induction events generalizing bench with
  | nil => rfl
  | cons event events ih => exact ih (bench.post 0 event).2

theorem delivered_foundTraffic (found : Poll Event) :
    delivered (foundTraffic found) = [Polled.poll found].filterMap Polled.event? := by
  cases found with
  | pending => rfl
  | ready found => cases found <;> rfl

theorem delivered_pollTraffic (bench : Bench) (between : Option (List Event)) :
    delivered (pollTraffic bench between) =
      (pollBetween bench between).1.filterMap Polled.event? := by
  unfold pollTraffic pollBetween
  generalize pollOnce bench = found
  obtain ⟨found, left⟩ := found
  cases found with
  | ready found => exact delivered_foundTraffic _
  | pending =>
      cases between with
      | none => rfl
      | some events =>
          let again := pollOnce (postAll left events).2
          change delivered (postTraffic left events ++ foundTraffic again.1) =
            ((postAll left events).1 ++ [Polled.poll again.1]).filterMap Polled.event?
          rw [Traffic.delivered_append, delivered_postTraffic, List.filterMap_append,
            events_postAll, delivered_foundTraffic]

theorem delivered_map_taken (found : Option Event) :
    delivered (found.toList.map .taken) = found.toList := by
  cases found <;> rfl

theorem history_installWith {δ β ε : Type} [Driver δ β ε] [Describe ε] [SparesQueue δ]
    (session : Dispatch) (driver : δ) (board : β) :
    session.bench.History [] (session.installWith driver board).2.bench :=
  Bench.history_of_queue (session.dispatcher.queue_install driver board session.bench)

theorem events_installWith {δ β ε : Type} [Driver δ β ε] [Describe ε] (session : Dispatch)
    (driver : δ) (board : β) : (session.installWith driver board).1.events = [] := by
  rw [installWith]
  cases (session.dispatcher.install driver board session.bench).result <;> rfl

theorem history_performCommand (session : Dispatch) (command : Command) :
    session.bench.History [] (session.performCommand command).2.bench := by
  rw [performCommand]
  cases session.radio with
  | none => exact Bench.history_of_queue rfl
  | some radio =>
      have same := radio.queue_perform command session.bench
      rcases hperformed : radio.perform command session.bench with ⟨error | done, left⟩
      · simp only [hperformed] at same ⊢
        exact Bench.history_of_queue same
      · simp only [hperformed] at same ⊢
        exact Bench.history_of_queue same

theorem events_performCommand (session : Dispatch) (command : Command) :
    (session.performCommand command).1.events = [] := by
  rw [performCommand]
  cases session.radio with
  | none => rfl
  | some radio =>
      rcases hperformed : radio.perform command session.bench with ⟨error | done, left⟩ <;>
        simp only [hperformed, Answer.events]

theorem act_keepsQueue (session : Dispatch) {step : Step} (keeps : step.keepsQueue = true) :
    ∃ answer next, session.act step = .ok (answer, next) ∧
      session.bench.History (session.traffic step) next.bench ∧
      delivered (session.traffic step) = answer.events := by
  cases step with
  | newQueue capacity => cases keeps
  | install driver =>
      exact ⟨_, _, rfl, session.history_installWith driver (),
        (session.events_installWith driver ()).symm⟩
  | installRadio timers =>
      cases hradio : session.radio with
      | none =>
          refine ⟨.nothing, session, ?_, Bench.history_of_queue rfl, rfl⟩
          rw [act, hradio]
      | some radio =>
          let board : SimulatedBoard := { timers }
          have run : session.act (.installRadio timers) =
              .ok (session.installWith radio board) := by
            rw [act, hradio]
          exact ⟨_, _, run, session.history_installWith radio board,
            (session.events_installWith radio board).symm⟩
  | command command =>
      exact ⟨_, _, rfl, session.history_performCommand command,
        (session.events_performCommand command).symm⟩
  | latch cause =>
      cases hradio : session.radio with
      | none =>
          refine ⟨.nothing, session, ?_, Bench.history_of_queue rfl, rfl⟩
          rw [act, hradio]
      | some radio =>
          let latched := (session.bench.chips radio.chip).latch cause
          refine ⟨.nothing, { session with bench := session.bench.setChip radio.chip latched }, ?_,
            Bench.history_of_queue rfl, rfl⟩
          simp only [act, hradio, latched]
  | chip =>
      refine ⟨_, _, rfl, Bench.history_of_queue rfl, ?_⟩
      cases session.chip? <;> rfl
  | dispatch event =>
      exact ⟨_, _, rfl, session.dispatcher.history_dispatch event session.bench,
        session.dispatcher.delivered_traffic event session.bench⟩
  | cloneSender =>
      refine ⟨_, _, rfl, ?_, rfl⟩
      intro queue hqueue
      exact ⟨queue.cloneSender, congrArg (Option.map _) hqueue,
        .step (.sender queue .cloned) (.idle _)⟩
  | dropSender sender =>
      refine ⟨_, _, rfl, ?_, rfl⟩
      intro queue hqueue
      exact ⟨queue.dropSender sender, congrArg (Option.map _) hqueue,
        .step (.sender queue (.dropped sender)) (.idle _)⟩
  | dropQueue =>
      refine ⟨_, _, rfl, ?_, rfl⟩
      intro queue hqueue
      exact ⟨queue.close, congrArg (Option.map _) hqueue, .step (.close queue) (.idle _)⟩
  | post sender event =>
      exact ⟨_, _, rfl, session.bench.history_post sender event, rfl⟩
  | tryNext => exact ⟨_, _, rfl, session.bench.history_tryNext, delivered_map_taken _⟩
  | poll between =>
      exact ⟨_, _, rfl, history_pollBetween session.bench between,
        delivered_pollTraffic session.bench between⟩
  | drain =>
      obtain ⟨messages, same⟩ :=
        session.dispatcher.exists_drain_eq (fun _ _ => []) session.bench
      have history := Dispatcher.history_drainUpTo (fun _ _ => []) Dispatcher.drainLimit
        session.dispatcher session.bench
      refine ⟨_, _, rfl, ?_, ?_⟩
      · refine history.congr_right ?_
        rw [same]
        rfl
      · change delivered (Dispatcher.drainTraffic _ _ _ _) = List.map Prod.fst _
        rw [Dispatcher.delivered_drainTraffic, same]
  | register | isConfigured | setBuffer | takeBuffer | info | counters | resetCounters | watch
  | readWatches | newRadio | dropped =>
      exact ⟨_, _, rfl, Bench.history_of_queue rfl, rfl⟩

/-! ## The ends of the queue -/

theorem exchanges_postTraffic (bench : Bench) (events : List Event) :
    Traffic.Exchanges (postTraffic bench events) := by
  induction events generalizing bench with
  | nil => exact List.forall_mem_nil _
  | cons event events ih => exact List.forall_mem_cons.mpr ⟨⟨nofun, rfl⟩, ih _⟩

theorem exchanges_map_taken (found : Option Event) :
    Traffic.Exchanges (found.toList.map .taken) := by
  intro entry h
  obtain ⟨event, -, rfl⟩ := List.mem_map.mp h
  exact ⟨nofun, rfl⟩

theorem exchanges_pollTraffic (bench : Bench) (between : Option (List Event)) :
    Traffic.Exchanges (pollTraffic bench between) := by
  unfold pollTraffic
  generalize pollOnce bench = found
  obtain ⟨found, left⟩ := found
  cases found with
  | ready found => exact exchanges_map_taken found
  | pending =>
      cases between with
      | none => exact List.forall_mem_nil _
      | some events =>
          refine (exchanges_postTraffic left events).append ?_
          cases (pollOnce (postAll left events).2).1 with
          | pending => exact List.forall_mem_nil _
          | ready found => exact exchanges_map_taken found

theorem ends_traffic (session : Dispatch) (step : Step) :
    (Traffic.closed ∈ session.traffic step ↔ step = .dropQueue) ∧
      changes (session.traffic step) = step.change?.toList := by
  have of_exchanges (h : Traffic.Exchanges (session.traffic step)) (other : step ≠ .dropQueue)
      (still : step.change? = none) : (Traffic.closed ∈ session.traffic step ↔ step = .dropQueue) ∧
        changes (session.traffic step) = step.change?.toList := by
    rw [h.changes_eq_nil, still]
    exact ⟨iff_of_false h.closed_not_mem other, rfl⟩
  cases step with
  | cloneSender => exact ⟨by simp [traffic], rfl⟩
  | dropSender sender => exact ⟨by simp [traffic], rfl⟩
  | dropQueue => exact ⟨by simp [traffic], rfl⟩
  | dispatch event =>
      exact of_exchanges (session.dispatcher.exchanges_traffic event _) nofun rfl
  | post sender event => exact of_exchanges (List.forall_mem_singleton.mpr ⟨nofun, rfl⟩) nofun rfl
  | tryNext => exact of_exchanges (exchanges_map_taken _) nofun rfl
  | poll between => exact of_exchanges (exchanges_pollTraffic _ between) nofun rfl
  | drain => exact of_exchanges (Dispatcher.exchanges_drainTraffic _ _ _ _) nofun rfl
  | register | install | isConfigured | setBuffer | takeBuffer | info | counters | resetCounters
  | watch | readWatches | newRadio | installRadio | command | latch | chip | newQueue | dropped =>
      exact of_exchanges (List.forall_mem_nil _) nofun rfl

/-! ## Runs -/

def run (session : Dispatch) : List Step → Except CapacityExceeded (List Answer × Dispatch)
  | [] => .ok ([], session)
  | step :: steps => do
      let (answer, next) ← session.step step
      let (answers, last) ← next.run steps
      return (answer :: answers, last)

/-- What is seen of each step of a run, in order. -/
def along {α : Type} (seen : Dispatch → Step → List α) (session : Dispatch) : List Step → List α
  | [] => []
  | step :: steps =>
      seen session.quiet step ++
        match session.step step with
        | .error _ => []
        | .ok (_, next) => next.along seen steps

theorem along_cons {α : Type} (seen : Dispatch → Step → List α) {session next : Dispatch}
    {step : Step} {answer : Answer} (stepped : session.step step = .ok (answer, next))
    (steps : List Step) :
    session.along seen (step :: steps) = seen session.quiet step ++ next.along seen steps := by
  rw [along, stepped]

theorem run_cons {session next last : Dispatch} {step : Step} {answer : Answer}
    {steps : List Step} {answers : List Answer} (stepped : session.step step = .ok (answer, next))
    (ran : next.run steps = .ok (answers, last)) :
    session.run (step :: steps) = .ok (answer :: answers, last) := by
  simp only [run, stepped, ran, bind, Except.bind, pure, Except.pure]

theorem exists_of_run_cons {session last : Dispatch} {step : Step} {steps : List Step}
    {answers : List Answer}
    (ran : session.run (step :: steps) = .ok (answers, last)) :
    ∃ answer next rest, session.step step = .ok (answer, next) ∧
      next.run steps = .ok (rest, last) ∧ answers = answer :: rest := by
  rw [run] at ran
  rcases stepped : session.step step with error | ⟨answer, next⟩
  · simp [stepped, bind, Except.bind] at ran
  · rcases later : next.run steps with error | ⟨rest, left⟩
    · simp [stepped, later, bind, Except.bind] at ran
    · simp only [stepped, later, bind, Except.bind, pure, Except.pure, Except.ok.injEq,
        Prod.mk.injEq] at ran
      obtain ⟨rfl, rfl⟩ := ran
      exact ⟨answer, next, rest, rfl, later, rfl⟩

def runTraffic (session : Dispatch) (steps : List Step) : List Traffic :=
  session.along traffic steps

theorem run_keepsQueue (session : Dispatch) {steps : List Step}
    (same : ∀ step ∈ steps, step.keepsQueue = true) :
    ∃ answers last, session.run steps = .ok (answers, last) ∧
      session.bench.History (session.runTraffic steps) last.bench ∧
      delivered (session.runTraffic steps) = answers.flatMap Answer.events ∧
      (Traffic.closed ∈ session.runTraffic steps ↔ .dropQueue ∈ steps) ∧
      changes (session.runTraffic steps) = steps.filterMap Step.change? := by
  induction steps generalizing session with
  | nil =>
      exact ⟨[], session, rfl, Bench.history_of_queue rfl, rfl, by simp [runTraffic, along], rfl⟩
  | cons step steps ih =>
      obtain ⟨answer, next, acted, history, found⟩ :=
        session.quiet.act_keepsQueue (same step List.mem_cons_self)
      obtain ⟨answers, last, ran, later, rest, closed, changed⟩ :=
        ih next fun other h => same other (List.mem_cons_of_mem _ h)
      obtain ⟨closes, change⟩ := session.quiet.ends_traffic step
      have stepped : session.step step = .ok (answer, next) := acted
      have traffic : session.runTraffic (step :: steps) =
          session.quiet.traffic step ++ next.runTraffic steps := along_cons _ stepped steps
      refine ⟨answer :: answers, last, run_cons stepped ran, ?_, ?_, ?_, ?_⟩
      · rw [traffic]
        exact (history.congr_left rfl).append later
      · rw [traffic, Traffic.delivered_append, found, rest, List.flatMap_cons]
      · rw [traffic, List.mem_append, closes, closed, List.mem_cons, eq_comm]
      · rw [traffic, Traffic.changes_append, change, changed, List.filterMap_cons]
        cases step.change? <;> rfl

/-! ## What the next step finds -/

section

variable {session : Dispatch} {queue : PostQueue}

theorem step_post (hqueue : session.bench.queue = some queue) (sender : Nat) (event : Event) :
    ∃ next, session.step (.post sender event) =
      .ok (.posted (if queue.isLive sender then
        PostQueue.dueAnswer queue.capacity queue.receiving queue.waiting.length event
        else .noSender), next) := by
  have same : session.quiet.bench.queue = some queue := hqueue
  have answered := session.quiet.bench.answer_post_eq sender event
  rw [same, Option.elim_some, PostQueue.ofPost_post] at answered
  rw [← answered]
  exact ⟨_, rfl⟩

theorem step_cloneSender (hqueue : session.bench.queue = some queue) :
    ∃ next, session.step .cloneSender = .ok (.number queue.senders.length, next) := by
  have same : session.quiet.bench.queue = some queue := hqueue
  rw [step, act, same]
  exact ⟨_, rfl⟩

theorem step_tryNext (hqueue : session.bench.queue = some queue) :
    ∃ next, session.step .tryNext = .ok (.event queue.waiting.head?, next) := by
  have same : session.quiet.bench.queue = some queue := hqueue
  have found := session.quiet.bench.fst_tryNext
  rw [Bench.waiting, same, Option.elim_some] at found
  rw [← found]
  exact ⟨_, rfl⟩

theorem step_poll (session : Dispatch) (between : Option (List Event)) :
    session.step (.poll between) =
      .ok (.polled (pollBetween session.quiet.bench between).1,
        { session.quiet with bench := (pollBetween session.quiet.bench between).2 }) := rfl

theorem step_poll_of_cons (hqueue : session.bench.queue = some queue) {event : Event}
    {others : List Event} (first : queue.waiting = event :: others)
    (between : Option (List Event)) :
    ∃ next, session.step (.poll between) = .ok (.polled [.poll (.ready (some event))], next) := by
  have same : session.quiet.bench.queue = some queue := hqueue
  rw [step_poll, pollBetween_of_ready (pollOnce_of_cons same first)]
  exact ⟨_, rfl⟩

theorem step_poll_of_nil (hqueue : session.bench.queue = some queue)
    (nothing : queue.waiting = []) :
    session.step (.poll none) =
      .ok (.polled [.poll (if queue.hasSender then .pending else .ready none)], session.quiet) := by
  have same : session.quiet.bench.queue = some queue := hqueue
  rw [step_poll, pollBetween_none, pollOnce_of_nil same nothing]

theorem waiting_postAll {bench : Bench} (hqueue : bench.queue = some queue)
    (events : List Event) :
    ∃ left, (postAll bench events).2.queue = some left ∧
      left.waiting = queue.waiting ++ accepted (postTraffic bench events) := by
  obtain ⟨left, hleft, history⟩ := history_postAll bench events queue hqueue
  have conserved := history.account.conserved (exchanges_postTraffic bench events).closed_not_mem
  rw [delivered_postTraffic, List.nil_append] at conserved
  exact ⟨left, hleft, conserved.symm⟩

theorem step_poll_between (hqueue : session.bench.queue = some queue)
    (nothing : queue.waiting = []) (live : queue.isLive 0 = true)
    (receiving : queue.receiving = true) (room : 0 < queue.capacity) (event : Event)
    (events : List Event) :
    ∃ posts next, session.step (.poll (some (event :: events))) =
      .ok (.polled (.poll .pending :: .post .accepted :: posts ++ [.poll (.ready (some event))]),
        next) := by
  have same : session.quiet.bench.queue = some queue := hqueue
  have pending : pollOnce session.quiet.bench = (.pending, session.quiet.bench) := by
    rw [pollOnce_of_nil same nothing, if_pos (Channel.hasSender_iff.mpr ⟨0, live⟩)]
  have answered : (session.quiet.bench.post 0 event).1 = .accepted := by
    have free : queue.waiting.length < queue.capacity := by rwa [nothing]
    rw [Bench.answer_post same live]
    simp [PostQueue.dueAnswer, receiving, free]
  -- Nothing is taken between the polls, so that what waits begins with the first post.
  obtain ⟨left, hleft, waiting⟩ := waiting_postAll same (event :: events)
  have first : left.waiting = event :: accepted
      (postTraffic (session.quiet.bench.post 0 event).2 events) := by
    rw [waiting, nothing, postTraffic, answered]
    rfl
  have posts : (postAll session.quiet.bench (event :: events)).1 =
      .post .accepted :: (postAll (session.quiet.bench.post 0 event).2 events).1 := by
    rw [← answered]
    rfl
  rw [step_poll, pollBetween_of_pending pending, pollOnce_of_cons hleft first, posts]
  exact ⟨_, _, rfl⟩

end

/-- A queue for `max capacity 1` events, whatever is done to it and to its senders.  A sender is
there if it is the first or was cloned, and has not been dropped since; a clone is numbered by the
senders made before it.  Every post through a sender that is there is answered by whether the
receiver is there and by the room that is left.  The answers of the run hand over the accepted
events in the order of acceptance, the rest still waits, and refused posts are counted.  A poll of
an empty queue is pending while some sender is there, and tells the end of the events once there is
none. -/
theorem queue_delivers_accepted (session : Dispatch) {capacity : Nat}
    (fits : capacity ≤ Channel.capacityLimit) {steps : List Step}
    (same : ∀ step ∈ steps, step.keepsQueue = true) :
    ∃ opened answers last queue,
      session.step (.newQueue capacity) = .ok (.nothing, opened) ∧
      opened.run steps = .ok (answers, last) ∧ last.bench.queue = some queue ∧
      let room := max capacity 1
      let traffic := opened.runTraffic steps
      let past := steps.filterMap Step.change?
      let due := PostQueue.dueAnswer room queue.receiving queue.waiting.length
      (queue.receiving = true ↔ .dropQueue ∉ steps) ∧
      (∀ sender, queue.isLive sender = true ↔ Lives past sender) ∧
      changes traffic = past ∧
      (∃ next, last.step .cloneSender = .ok (.number (made past), next)) ∧
      (∀ before sender event answer after,
        traffic = before ++ .posted sender event answer :: after →
        (Lives (changes before) sender →
          answer = PostQueue.dueAnswer room (!before.contains .closed)
            ((accepted before).drop (delivered before).length).length event) ∧
        (¬ Lives (changes before) sender → answer = .noSender)) ∧
      (∀ sender event, ∃ next,
        (Lives past sender → last.step (.post sender event) = .ok (.posted (due event), next)) ∧
        (¬ Lives past sender → last.step (.post sender event) = .ok (.posted .noSender, next))) ∧
      delivered traffic = answers.flatMap Answer.events ∧
      (queue.receiving = true →
        accepted traffic = answers.flatMap Answer.events ++ queue.waiting) ∧
      queue.waiting.length ≤ room ∧
      (queue.waiting.isEmpty = true ↔ queue.waiting.length = 0) ∧
      queue.dropped = .ofNat (refusals traffic) ∧
      (∃ next, last.step .tryNext = .ok (.event queue.waiting.head?, next)) ∧
      (∀ event others between, queue.waiting = event :: others →
        ∃ next, last.step (.poll between) = .ok (.polled [.poll (.ready (some event))], next)) ∧
      (queue.waiting = [] → (∃ sender, Lives past sender) →
        last.step (.poll none) = .ok (.polled [.poll .pending], last.quiet)) ∧
      (queue.waiting = [] → Lives past 0 → queue.receiving = true → ∀ event events, ∃ posts next,
        last.step (.poll (some (event :: events))) =
          .ok (.polled (.poll .pending :: .post .accepted :: posts ++
            [.poll (.ready (some event))]), next)) ∧
      (queue.waiting = [] → (¬ ∃ sender, Lives past sender) →
        last.step (.poll none) = .ok (.polled [.poll (.ready none)], last.quiet)) := by
  let fresh : PostQueue := { capacity := max capacity 1 }
  let opened : Dispatch :=
    { session.quiet with bench := { session.quiet.bench with queue := some fresh } }
  have opens : PostQueue.make? capacity = some fresh := PostQueue.make?_eq_some_iff.mpr ⟨fits, rfl⟩
  have stepped : session.step (.newQueue capacity) = .ok (.nothing, opened) := by
    rw [step, act, opens]
  obtain ⟨answers, last, ran, history, found, closed, changed⟩ := opened.run_keepsQueue same
  -- What the history of the new queue adds up to says the rest.
  obtain ⟨queue, hqueue, history⟩ := history fresh rfl
  have account := history.account
  have numbered : fresh.Numbered [] := .of_make? opens
  refine ⟨opened, answers, last, queue, stepped, ran, hqueue, ?_⟩
  intro room traffic past due
  have senders : queue.Numbered past := by
    have passed := numbered.history history
    rwa [List.nil_append, show changes _ = past from changed] at passed
  have live := senders.live
  have anyone : queue.hasSender = true ↔ ∃ sender, Lives past sender := by
    rw [Channel.hasSender_iff, exists_congr live]
  have alive : queue.receiving = true ↔ Traffic.closed ∉ traffic := by
    have receiving : queue.receiving = (true && !traffic.contains .closed) := account.receiving
    rw [receiving]
    simp
  have cloned := step_cloneSender hqueue
  rw [senders.length] at cloned
  refine ⟨?_, live, changed, cloned, ?_, ?_, found, ?_, ?_, ?_, ?_, step_tryNext hqueue, ?_, ?_, ?_,
    ?_⟩
  · rw [alive, closed]
  · intro before sender event answer after parts
    have whole : fresh.History (before ++ .posted sender event answer :: after) queue :=
      parts ▸ history
    exact whole.answer numbered
  · intro sender event
    obtain ⟨next, posted⟩ := step_post hqueue sender event
    refine ⟨next, fun lives => ?_, fun absent => ?_⟩
    · rw [posted, if_pos ((live sender).mpr lives), account.capacity]
    · rw [posted, if_neg (mt (live sender).mp absent)]
  · intro receiving
    have conserved := account.conserved (alive.mp receiving)
    rw [found] at conserved
    exact conserved
  · have within := account.within (Nat.zero_le _)
    rw [account.capacity] at within
    exact within
  · rw [List.isEmpty_iff, List.length_eq_zero_iff]
  · have dropped := account.dropped
    rw [dropped]
    exact UInt64.zero_add _
  · intro event others between first
    exact step_poll_of_cons hqueue first between
  · intro nothing lives
    rw [step_poll_of_nil hqueue nothing, if_pos (anyone.mpr lives)]
  · intro nothing lives receiving event events
    have free : 0 < queue.capacity := by
      rw [account.capacity]
      exact Nat.le_max_right capacity 1
    exact step_poll_between hqueue nothing ((live 0).mpr lives) receiving free event events
  · intro nothing absent
    rw [step_poll_of_nil hqueue nothing, if_neg (mt anyone.mp absent)]

/-- A queue of depth zero has one place: of two posted events the second is refused and counted, and
the first is handed over.  The sender that is cloned outlives the first one and posts a third event,
which is handed over too.  A poll is pending until that sender is dropped, and then tells the end of
the events. -/
theorem queue_delivers_accepted_one :
    let steps : List Step := [.post 0 (.line 0), .post 0 (.line 1), .poll none, .cloneSender,
      .dropSender 0, .post 0 (.line 3), .post 1 (.line 2), .poll none]
    let opened : Dispatch := { bench := { queue := some { capacity := 1 } } }
    ∃ answers last queue answersGone gone,
      opened.run steps = .ok (answers, last) ∧ last.bench.queue = some queue ∧
      accepted (opened.runTraffic steps) = [.line 0, .line 2] ∧
      answers.flatMap Answer.events = [.line 0, .line 2] ∧ queue.waiting = [] ∧
      queue.dropped = 1 ∧ (∃ next, last.step (.post 0 (.line 0)) = .ok (.posted .noSender, next)) ∧
      last.step (.poll none) = .ok (.polled [.poll .pending], last.quiet) ∧
      opened.run (steps ++ [.dropSender 1]) = .ok (answersGone, gone) ∧
      gone.step (.poll none) = .ok (.polled [.poll (.ready none)], gone.quiet) := by
  intro steps opened
  have fits : 0 ≤ Channel.capacityLimit := Nat.zero_le _
  have same : ∀ step ∈ steps, step.keepsQueue = true := by decide
  have sameGone : ∀ step ∈ steps ++ [.dropSender 1], step.keepsQueue = true := by decide
  obtain ⟨first, answers, last, queue, stepped, ran, hqueue, -, -, -, -, -, posted, found, kept, -,
    -, dropped, -, -, pending, -, -⟩ := queue_delivers_accepted {} fits same
  obtain ⟨second, answersGone, gone, left, steppedGone, ranGone, hleft, -, -, -, -, -, -, -, -, -,
    -, -, -, -, -, -, ended⟩ := queue_delivers_accepted {} fits sameGone
  obtain rfl : opened = first := congrArg Prod.snd (Except.ok.inj stepped)
  obtain rfl : opened = second := congrArg Prod.snd (Except.ok.inj steppedGone)
  have nothing : queue.waiting = [] ∧ queue.receiving = true := by
    obtain rfl : _ = last := congrArg Prod.snd (Except.ok.inj ran)
    obtain rfl : _ = queue := Option.some.inj hqueue
    exact ⟨rfl, rfl⟩
  have nothingGone : left.waiting = [] := by
    obtain rfl : _ = gone := congrArg Prod.snd (Except.ok.inj ranGone)
    obtain rfl : _ = left := Option.some.inj hleft
    rfl
  have second_lives : Lives [.cloned, .dropped 0] 1 :=
    .inr ⟨[], [.dropped 0], rfl, rfl, by decide⟩
  have first_gone : ¬ Lives [.cloned, .dropped 0] 0 := by
    simp [Lives, List.cons_eq_append_iff, SenderChange.made]
  have nobody : ¬ ∃ sender, Lives [.cloned, .dropped 0, .dropped 1] sender := by
    rintro ⟨sender, ⟨rfl, kept⟩ | ⟨before, after, parts, rfl, kept⟩⟩
    · exact kept (by decide)
    · obtain ⟨rfl, rfl⟩ : before = [] ∧ after = [.dropped 0, .dropped 1] := by
        simpa [List.cons_eq_append_iff] using parts
      exact kept (by decide)
  obtain ⟨next, -, refused⟩ := posted 0 (.line 0)
  have handed : answers.flatMap Answer.events = [.line 0, .line 2] := found.symm
  have whole : accepted (opened.runTraffic steps) = [.line 0, .line 2] := by
    rw [kept nothing.2, handed, nothing.1]
    rfl
  exact ⟨answers, last, queue, answersGone, gone, ran, hqueue, whole, handed, nothing.1, dropped,
    ⟨next, refused first_gone⟩, pending nothing.1 ⟨1, second_lives⟩, ranGone,
    ended nothingGone nobody⟩

end Session.Dispatch

end RadioInterrupt
