import RadioInterrupt.Proofs.Draining

/-!
# Posting while a queue is drained

An event leaves the queue before it is dispatched, and the place that it leaves is free when its
handler runs.  So the first post of every run is accepted, even where the queue was full when the
drain began, and handlers that post once in a run lose no event.
-/

namespace RadioInterrupt

namespace Traffic

def isHeard : Traffic → Bool
  | .posted _ _ .noSender => false
  | .posted _ _ _ => true
  | _ => false

theorem isHeard_of_isRefusal {entry : Traffic} (h : entry.isRefusal = true) :
    entry.isHeard = true := by
  cases entry with
  | posted sender event answer => cases answer <;> simp_all [isRefusal, isHeard]
  | taken event | sender change | closed => simp [isRefusal] at h

end Traffic

/-! ## Room for a post -/

namespace PostQueue

structure Open (queue : PostQueue) : Prop where
  receiving : queue.receiving = true
  capacity : 0 < queue.capacity
  within : queue.waiting.length ≤ queue.capacity

theorem Open.after {queue last : PostQueue} {traffic : List Traffic} (h : queue.Open)
    (account : queue.Account traffic last) (unclosed : Traffic.closed ∉ traffic) : last.Open := by
  constructor
  · simp [account.receiving, h.receiving, unclosed]
  · rw [account.capacity]
    exact h.capacity
  · exact account.within h.within

theorem Step.isHeard_iff {queue last : PostQueue} {sender : Nat} {event : Event}
    {answer : PostAnswer} (h : queue.Step (.posted sender event answer) last) :
    (Traffic.posted sender event answer).isHeard = true ↔ queue.isLive sender = true := by
  cases h with
  | accept live | full live | gone live => exact iff_of_true rfl live
  | unheard absent => rw [Traffic.isHeard, absent]

theorem Step.isLive {queue last : PostQueue} {entry : Traffic} (h : queue.Step entry last)
    (still : entry.change? = none) (sender : Nat) : last.isLive sender = queue.isLive sender := by
  cases h with
  | sender change => cases still
  | accept | full | gone | unheard | take | close => rfl

theorem History.isHeard_iff {queue last : PostQueue} {traffic : List Traffic}
    (h : queue.History traffic last) (still : Traffic.Exchanges traffic) {sender : Nat}
    {event : Event} {answer : PostAnswer} (member : .posted sender event answer ∈ traffic) :
    (Traffic.posted sender event answer).isHeard = true ↔ queue.isLive sender = true := by
  induction h with
  | idle => cases member
  | step first later ih =>
      rcases List.mem_cons.mp member with rfl | member
      · exact first.isHeard_iff
      · rw [← first.isLive (still _ List.mem_cons_self).2]
        exact ih (fun entry h => still entry (List.mem_cons_of_mem _ h)) member

theorem History.first_accepted {queue last : PostQueue} {traffic : List Traffic}
    (h : queue.History traffic last)
    (posts : ∀ entry ∈ traffic, ∃ sender event answer, entry = .posted sender event answer)
    (receiving : queue.receiving = true) (room : queue.waiting.length < queue.capacity)
    {first : Traffic} (hfirst : traffic.find? Traffic.isHeard = some first) :
    ∃ sender event, first = .posted sender event .accepted := by
  induction h with
  | idle => cases hfirst
  | @step queue middle last entry traffic step later ih =>
      cases step with
      | @accept sender event live alive room =>
          exact ⟨sender, event, (Option.some.inj hfirst).symm⟩
      | full live alive noRoom => exact absurd room (Nat.not_lt.mpr noRoom)
      | gone live gone =>
          rw [receiving] at gone
          cases gone
      | unheard absent =>
          exact ih (fun other h => posts other (List.mem_cons_of_mem _ h)) receiving room hfirst
      | take | sender | close =>
          obtain ⟨sender, event, answer, other⟩ := posts _ List.mem_cons_self
          cases other

end PostQueue

/-! ## The runs of a drain -/

namespace Dispatcher

/-- The posts of each of at most so many runs of a drain, with their answers. -/
def drainPosts (announce : Announce) : Nat → Dispatcher → Bench → List (List Traffic)
  | 0, _, _ => []
  | limit + 1, dispatcher, bench =>
      match bench.tryNext with
      | (none, _) => []
      | (some event, bench) =>
          let first := dispatcher.dispatch event bench
          (dispatcher.traffic event bench).filter Traffic.isHeard ::
            drainPosts announce limit first.dispatcher
              (first.bench.say (announce event first.result))

variable (announce : Announce) (limit : Nat) {dispatcher : Dispatcher} {bench : Bench}
  {queue : PostQueue}

theorem flatten_drainPosts (dispatcher : Dispatcher) (bench : Bench) :
    (drainPosts announce limit dispatcher bench).flatten =
      (drainTraffic announce limit dispatcher bench).filter Traffic.isHeard := by
  induction limit generalizing dispatcher bench with
  | zero => rfl
  | succ limit ih =>
      rw [drainPosts, drainTraffic]
      generalize bench.tryNext = next
      obtain ⟨found, left⟩ := next
      cases found with
      | none => rfl
      | some event => simp [ih, Traffic.isHeard]

theorem length_drainPosts (dispatcher : Dispatcher) (bench : Bench) :
    (drainPosts announce limit dispatcher bench).length =
      (drainUpTo announce limit dispatcher bench).outcomes.length := by
  induction limit generalizing dispatcher bench with
  | zero => rfl
  | succ limit ih =>
      rw [drainPosts, drainUpTo]
      generalize bench.tryNext = next
      obtain ⟨found, left⟩ := next
      cases found with
      | none => rfl
      | some event => simp [ih]

theorem first_post_accepted {event : Event} {left : Bench} (h : queue.Open)
    (hqueue : bench.queue = some queue) (found : bench.tryNext = (some event, left)) :
    (∀ first, (dispatcher.traffic event left).find? Traffic.isHeard = some first →
      ∃ sender posted, first = .posted sender posted .accepted) ∧
    ∃ next, (dispatcher.dispatch event left).bench.queue = some next ∧ next.Open := by
  cases hwaiting : queue.waiting with
  | nil =>
      have nothing : bench.waiting = [] := by simp [Bench.waiting, hqueue, hwaiting]
      rw [Bench.tryNext_of_nil nothing] at found
      cases found
  | cons taken others =>
      rw [Bench.tryNext_of_cons hqueue hwaiting] at found
      simp only [Prod.mk.injEq, Option.some.injEq] at found
      obtain ⟨rfl, rfl⟩ := found
      let shorter : PostQueue := { queue with waiting := others }
      have room : shorter.waiting.length < shorter.capacity := by
        have within := h.within
        rw [hwaiting, List.length_cons] at within
        exact within
      have posts : ∀ entry ∈ dispatcher.traffic taken { bench with queue := some shorter },
          ∃ sender posted answer, entry = .posted sender posted answer :=
        fun _ member => exists_of_mem_traffic member
      have unclosed := (dispatcher.exchanges_traffic taken
        { bench with queue := some shorter }).closed_not_mem
      obtain ⟨next, hnext, history⟩ :=
        dispatcher.history_dispatch taken { bench with queue := some shorter } shorter rfl
      constructor
      · intro first hfirst
        exact history.first_accepted posts h.receiving room hfirst
      · have start : shorter.Open := ⟨h.receiving, h.capacity, room.le⟩
        exact ⟨next, hnext, start.after history.account unclosed⟩

theorem first_posts_accepted (h : queue.Open) (hqueue : bench.queue = some queue) :
    ∀ posts ∈ drainPosts announce limit dispatcher bench, ∀ first, posts.head? = some first →
      ∃ sender posted, first = .posted sender posted .accepted := by
  -- The queue is open again after each run, however many events the run has posted.
  induction limit generalizing dispatcher bench queue with
  | zero => simp [drainPosts]
  | succ limit ih =>
      rw [drainPosts]
      rcases hnext : bench.tryNext with ⟨_ | event, left⟩
      · simp
      · obtain ⟨accepted, next, hqueueNext, hopen⟩ := first_post_accepted h hqueue hnext
        simp only [List.mem_cons, forall_eq_or_imp, List.head?_filter]
        exact ⟨accepted, ih hopen hqueueNext⟩

theorem refusals_drainTraffic_eq_zero (h : queue.Open) (hqueue : bench.queue = some queue)
    (once : ∀ posts ∈ drainPosts announce limit dispatcher bench, posts.length ≤ 1) :
    Traffic.refusals (drainTraffic announce limit dispatcher bench) = 0 := by
  apply List.countP_eq_zero.mpr
  intro entry member refused
  have heard : entry ∈ (drainPosts announce limit dispatcher bench).flatten := by
    rw [flatten_drainPosts]
    exact List.mem_filter.mpr ⟨member, Traffic.isHeard_of_isRefusal refused⟩
  obtain ⟨posts, hposts, hentry⟩ := List.mem_flatten.mp heard
  have alone : posts = [entry] := by
    have short := once posts hposts
    match posts, hentry with
    | [only], hentry => rw [List.mem_singleton.mp hentry]
    | _ :: _ :: _, _ => simp at short
  obtain ⟨sender, posted, rfl⟩ := first_posts_accepted announce limit h hqueue posts hposts entry
    (by rw [alone]; rfl)
  simp [Traffic.isRefusal] at refused

theorem dropped_drainUpTo (h : queue.Open) (hqueue : bench.queue = some queue)
    (once : ∀ posts ∈ drainPosts announce limit dispatcher bench, posts.length ≤ 1) :
    ∃ left, (drainUpTo announce limit dispatcher bench).bench.queue = some left ∧
      left.dropped = queue.dropped := by
  obtain ⟨left, hleft, history⟩ :=
    history_drainUpTo announce limit dispatcher bench queue hqueue
  refine ⟨left, hleft, ?_⟩
  rw [history.account.dropped, refusals_drainTraffic_eq_zero announce limit h hqueue once]
  exact UInt64.add_zero _

/-- While a queue of any capacity is drained, however many events wait in it, the first post of
each run is accepted.  Where no run posts a second event, no post is refused and nothing is counted
as dropped. -/
theorem reposts_are_accepted (announce : Announce) (dispatcher : Dispatcher) (bench : Bench)
    {capacity : Nat} {made : PostQueue} (hmade : PostQueue.make? capacity = some made)
    (waiting : List Event) (within : waiting.length ≤ made.capacity) (senders : List Bool)
    (dropped : UInt64) (hqueue : bench.queue = some { made with waiting, senders, dropped }) :
    made.capacity = max capacity 1 ∧
    (∀ limit,
      let run := drainUpTo announce limit dispatcher bench
      let traffic := drainTraffic announce limit dispatcher bench
      let turns := drainPosts announce limit dispatcher bench
      turns.length = run.outcomes.length ∧
      turns.flatten = traffic.filter Traffic.isHeard ∧
      (∀ sender event answer, .posted sender event answer ∈ traffic →
        ((Traffic.posted sender event answer).isHeard = true ↔
          ({ made with waiting, senders, dropped } : PostQueue).isLive sender = true)) ∧
      (∀ posts ∈ turns, ∀ first, posts.head? = some first →
        ∃ sender event, first = .posted sender event .accepted) ∧
      ((∀ posts ∈ turns, posts.length ≤ 1) →
        Traffic.refusals traffic = 0 ∧
          ∃ left, run.bench.queue = some left ∧ left.dropped = dropped)) ∧
    ((∀ posts ∈ drainPosts announce drainLimit dispatcher bench, posts.length ≤ 1) →
      ∃ left, (dispatcher.drain bench announce).bench.queue = some left ∧
        left.dropped = dropped) := by
  obtain ⟨-, rfl⟩ := PostQueue.make?_eq_some_iff.mp hmade
  have start : PostQueue.Open { capacity := max capacity 1, waiting, senders, dropped } :=
    ⟨rfl, Nat.le_max_right capacity 1, within⟩
  refine ⟨rfl, ?_, ?_⟩
  · intro limit run traffic turns
    refine ⟨length_drainPosts announce limit dispatcher bench,
      flatten_drainPosts announce limit dispatcher bench, ?_,
      first_posts_accepted announce limit start hqueue, fun once => ⟨?_, ?_⟩⟩
    · intro sender event answer member
      obtain ⟨left, -, history⟩ := history_drainUpTo announce limit dispatcher bench _ hqueue
      exact history.isHeard_iff (exchanges_drainTraffic announce limit dispatcher bench) member
    · exact refusals_drainTraffic_eq_zero announce limit start hqueue once
    · exact dropped_drainUpTo announce limit start hqueue once
  · intro once
    obtain ⟨messages, same⟩ := exists_drain_eq announce dispatcher bench
    rw [same]
    exact dropped_drainUpTo announce drainLimit start hqueue once

/-- A queue for one event is full when its drain begins.  The handler of the event posts another one
in each of two runs, and posts nothing in the third. -/
theorem reposts_are_accepted_full :
    let relay : Script := { id := "relay", runs := [[.post (.line 1)], [.post (.line 0)]] }
    let dispatcher : Dispatcher :=
      { toRegistry := (Registry.empty.performAll [.line 0 relay.handler]).2.1 }
    let queue : PostQueue := { capacity := 1, waiting := [.line 0], dropped := 7 }
    let bench : Bench := { queue := some queue }
    PostQueue.make? 0 = some { capacity := 1 } ∧
      queue.waiting.length = queue.capacity ∧
      (dispatcher.drain bench).outcomes.length = 3 ∧
      ∃ left, (dispatcher.drain bench).bench.queue = some left ∧ left.dropped = 7 := by
  intro relay dispatcher queue bench
  have raised : PostQueue.make? 0 = some { capacity := 1 } := by decide
  have posts : drainPosts (fun _ _ => []) drainLimit dispatcher bench =
      [[.posted 0 (.line 1) .accepted], [.posted 0 (.line 0) .accepted], []] := by
    decide +kernel
  obtain ⟨_, _, dropped⟩ := reposts_are_accepted (fun _ _ => []) dispatcher bench raised [.line 0]
    (Nat.le_refl 1) [true] 7 rfl
  refine ⟨raised, rfl, by decide +kernel, dropped ?_⟩
  rw [posts]
  decide

end Dispatcher

end RadioInterrupt
