import Mathlib.Data.List.Forall2
import RadioInterrupt.Proofs.Dependence

/-!
# Handlers that cannot tell events apart

A dispatch looks up the slot of its event and runs what is stored there; the handler is not told
which event it was.  So an event may take the place of another one of the same slot wherever it is
dispatched, posted or waiting.  `Handler.Varies` relates handlers that post such events: their runs
make the same reports, and leave alike what handlers share.
-/

namespace RadioInterrupt

variable {Renames : Event → Event → Prop} {event eventOther : Event}

inductive PostAnswer.Varies (event other : Event) : PostAnswer → PostAnswer → Prop
  | accepted : Varies event other .accepted .accepted
  | full : Varies event other (.refused (.full event)) (.refused (.full other))
  | closed : Varies event other (.refused (.closed event)) (.refused (.closed other))
  | noSender : Varies event other .noSender .noSender

theorem PostAnswer.Varies.eq {answer other : PostAnswer} (h : Varies event event answer other) :
    other = answer := by
  cases h <;> rfl

inductive Note.Varies (Renames : Event → Event → Prop) : Note → Note → Prop
  | refl (entry : Note) : Varies Renames entry entry
  | posted {event other : Event} {answer answerOther : PostAnswer} (renamed : Renames event other)
      (answered : PostAnswer.Varies event other answer answerOther) :
      Varies Renames (.posted answer) (.posted answerOther)

/-- Routines that do the same, but post events that may stand for each other. -/
inductive Routine.Varies (Renames : Event → Event → Prop) : Routine → Routine → Prop
  | done : Varies Renames .done .done
  | report {next other : Routine} (made : Report) (later : Varies Renames next other) :
      Varies Renames (.report made next) (.report made other)
  | look {next other : Option Outcome → Routine}
      (later : ∀ seen, Varies Renames (next seen) (other seen)) :
      Varies Renames (.look next) (.look other)
  | post {event eventOther : Event} {next other : PostAnswer → Routine} (sender : Nat)
      (renamed : Renames event eventOther)
      (later : ∀ answer answerOther, PostAnswer.Varies event eventOther answer answerOther →
        Varies Renames (next answer) (other answerOther)) :
      Varies Renames (.post sender event next) (.post sender eventOther other)
  | note {entry entryOther : Note} {next other : Routine} (noted : entry.Varies Renames entryOther)
      (later : Varies Renames next other) :
      Varies Renames (.note entry next) (.note entryOther other)

inductive Handler.Varies (Renames : Event → Event → Prop) : Handler → Handler → Prop
  | routine {behaviour other : Nat → Routine}
      (alike : ∀ run, (behaviour run).Varies Renames (other run)) (runs : Nat) :
      Varies Renames (.routine behaviour runs) (.routine other runs)
  | chipLine (chip : Nat) : Varies Renames (.chipLine chip) (.chipLine chip)
  | chipTimer (chip : Nat) (report : Report) :
      Varies Renames (.chipTimer chip report) (.chipTimer chip report)

theorem Routine.Varies.refl (same : ∀ event, Renames event event) (routine : Routine) :
    routine.Varies Renames routine := by
  induction routine with
  | done => exact .done
  | report made next ih => exact .report made ih
  | look next ih => exact .look ih
  | post sender event next ih =>
      refine .post sender (same event) fun answer answerOther answered => ?_
      rw [answered.eq]
      exact ih answer
  | note entry next ih => exact .note (.refl entry) ih

namespace Handler.Varies

variable {handler other : Handler}

theorem refl (same : ∀ event, Renames event event) (handler : Handler) :
    handler.Varies Renames handler := by
  cases handler with
  | routine behaviour runs => exact .routine (fun run => .refl same (behaviour run)) runs
  | chipLine chip => exact .chipLine chip
  | chipTimer chip report => exact .chipTimer chip report

theorem advance (h : handler.Varies Renames other) :
    handler.advance.Varies Renames other.advance := by
  cases h with
  | routine alike runs => exact .routine alike (runs + 1)
  | chipLine chip => exact .chipLine chip
  | chipTimer chip report => exact .chipTimer chip report

end Handler.Varies

inductive Action.Varies (Renames : Event → Event → Prop) : Action → Action → Prop
  | report (made : Report) : Varies Renames (.report made) (.report made)
  | look : Varies Renames .look .look
  | post {event other : Event} (renamed : Renames event other) :
      Varies Renames (.post event) (.post other)

namespace Script

theorem perform_varies {actions others : List Action}
    (h : List.Forall₂ (Action.Varies Renames) actions others) :
    (perform actions).Varies Renames (perform others) := by
  induction h with
  | nil => exact .done
  | cons first later ih =>
      cases first with
      | report made => exact .report made ih
      | look => exact .look fun seen => .note (.refl _) ih
      | post renamed =>
          exact .post 0 renamed fun answer answerOther answered =>
            .note (.posted renamed answered) ih

theorem handler_varies {script other : Script} (id : other.id = script.id)
    (actions : ∀ run,
      List.Forall₂ (Action.Varies Renames) (script.actions run) (other.actions run)) :
    script.handler.Varies Renames other.handler := by
  refine .routine (fun run => ?_) 0
  rw [behaviour, behaviour, id]
  exact .note (.refl _) (perform_varies (actions run))

end Script

/-! ## Queues and benches -/

inductive Poll.Varies (Renames : Event → Event → Prop) :
    Poll Event → Poll Event → Prop
  | pending : Varies Renames .pending .pending
  | ready {event other : Option Event} (renamed : Option.Rel Renames event other) :
      Varies Renames (.ready event) (.ready other)

structure PostQueue.Varies (Renames : Event → Event → Prop) (queue other : PostQueue) : Prop where
  capacity : other.capacity = queue.capacity
  waiting : List.Forall₂ Renames queue.waiting other.waiting
  receiving : other.receiving = queue.receiving
  senders : other.senders = queue.senders
  dropped : other.dropped = queue.dropped

namespace PostQueue.Varies

variable {queue other : PostQueue}

theorem refl (same : ∀ event, Renames event event) (queue : PostQueue) :
    queue.Varies Renames queue :=
  ⟨rfl, List.forall₂_same.mpr fun event _ => same event, rfl, rfl, rfl⟩

theorem post (h : queue.Varies Renames other) (renamed : Renames event eventOther) :
    PostAnswer.Varies event eventOther (.ofPost (queue.post event).1)
        (.ofPost (other.post eventOther).1) ∧
      (queue.post event).2.Varies Renames (other.post eventOther).2 := by
  have length : other.waiting.length = queue.waiting.length := h.waiting.length_eq.symm
  have counted : other.dropped + 1 = queue.dropped + 1 := by rw [h.dropped]
  cases alive : queue.receiving with
  | false =>
      have aliveOther : other.receiving = false := by rw [h.receiving, alive]
      rw [post_of_closed alive, post_of_closed aliveOther]
      exact ⟨.closed, h.capacity, h.waiting, h.receiving, h.senders, counted⟩
  | true =>
      have aliveOther : other.receiving = true := by rw [h.receiving, alive]
      by_cases room : queue.waiting.length < queue.capacity
      · have roomOther : other.waiting.length < other.capacity := by rwa [length, h.capacity]
        rw [post_of_room alive room, post_of_room aliveOther roomOther]
        refine ⟨.accepted, h.capacity, ?_, h.receiving, h.senders, h.dropped⟩
        exact List.rel_append h.waiting (.cons renamed .nil)
      · have filled : queue.capacity ≤ queue.waiting.length := Nat.not_lt.mp room
        have filledOther : other.capacity ≤ other.waiting.length := by rwa [length, h.capacity]
        rw [post_of_full alive filled, post_of_full aliveOther filledOther]
        exact ⟨.full, h.capacity, h.waiting, h.receiving, h.senders, counted⟩

theorem tryNext (h : queue.Varies Renames other) :
    Option.Rel Renames queue.tryNext.1 other.tryNext.1 ∧
      queue.tryNext.2.Varies Renames other.tryNext.2 := by
  have waiting := h.waiting
  cases hwaiting : queue.waiting with
  | nil =>
      rw [hwaiting, List.forall₂_nil_left_iff] at waiting
      rw [tryNext_of_nil hwaiting, tryNext_of_nil waiting]
      exact ⟨.none, h⟩
  | cons event rest =>
      rw [hwaiting, List.forall₂_cons_left_iff] at waiting
      obtain ⟨eventOther, restOther, renamed, rests, hwaitingOther⟩ := waiting
      rw [tryNext_of_cons hwaiting, tryNext_of_cons hwaitingOther]
      exact ⟨.some renamed, h.capacity, rests, h.receiving, h.senders, h.dropped⟩

theorem poll (h : queue.Varies Renames other) :
    queue.poll.1.Varies Renames other.poll.1 ∧ queue.poll.2.Varies Renames other.poll.2 := by
  have waiting := h.waiting
  cases hwaiting : queue.waiting with
  | nil =>
      rw [hwaiting, List.forall₂_nil_left_iff] at waiting
      have sender : other.hasSender = queue.hasSender := by
        rw [Channel.hasSender, Channel.hasSender, h.senders]
      rw [poll_of_nil hwaiting, poll_of_nil waiting, sender]
      refine ⟨?_, h⟩
      split
      · exact .pending
      · exact .ready .none
  | cons event rest =>
      rw [hwaiting, List.forall₂_cons_left_iff] at waiting
      obtain ⟨eventOther, restOther, renamed, rests, hwaitingOther⟩ := waiting
      rw [poll_of_cons hwaiting, poll_of_cons hwaitingOther]
      exact ⟨.ready (.some renamed), h.capacity, rests, h.receiving, h.senders, h.dropped⟩

end PostQueue.Varies

/-- Benches that handlers and dispatchers cannot tell apart, on which the same handlers ran. -/
structure Bench.Varies (Renames : Event → Event → Prop) (bench other : Bench) : Prop where
  chips : other.chips = bench.chips
  queue : Option.Rel (PostQueue.Varies Renames) bench.queue other.queue
  ran : other.ran = bench.ran

namespace Bench.Varies

variable {bench other : Bench}

theorem refl (same : ∀ event, Renames event event) (bench : Bench) :
    bench.Varies Renames bench := by
  refine ⟨rfl, ?_, rfl⟩
  cases bench.queue with
  | none => exact .none
  | some queue => exact .some (.refl same queue)

theorem say (h : bench.Varies Renames other) (messages others : List Message) :
    (bench.say messages).Varies Renames (other.say others) :=
  ⟨h.chips, h.queue, h.ran⟩

theorem note (h : bench.Varies Renames other) {entry entryOther : Note}
    (noted : entry.Varies Renames entryOther) :
    (bench.note entry).Varies Renames (other.note entryOther) := by
  refine ⟨h.chips, h.queue, ?_⟩
  rw [ran_note, ran_note, h.ran]
  cases noted <;> rfl

theorem setChip (h : bench.Varies Renames other) (number : Nat) (chip : Chip) :
    (bench.setChip number chip).Varies Renames (other.setChip number chip) :=
  ⟨chips_setChip_congr h.chips number chip, h.queue, h.ran⟩

theorem post (h : bench.Varies Renames other) (sender : Nat) (renamed : Renames event eventOther) :
    PostAnswer.Varies event eventOther (bench.post sender event).1
        (other.post sender eventOther).1 ∧
      (bench.post sender event).2.Varies Renames (other.post sender eventOther).2 := by
  have chips : (other.post sender eventOther).2.chips = (bench.post sender event).2.chips := by
    rw [chips_post, chips_post, h.chips]
  have ran : (other.post sender eventOther).2.ran = (bench.post sender event).2.ran := by
    rw [ran_post, ran_post, h.ran]
  have queues := h.queue
  suffices both : PostAnswer.Varies event eventOther (bench.post sender event).1
      (other.post sender eventOther).1 ∧ Option.Rel (PostQueue.Varies Renames)
        (bench.post sender event).2.queue (other.post sender eventOther).2.queue from
    ⟨both.1, chips, both.2, ran⟩
  rw [answer_post_eq, answer_post_eq, queue_post, queue_post]
  generalize bench.queue = queue at queues
  generalize other.queue = queueOther at queues
  cases queues with
  | none => exact ⟨.noSender, .none⟩
  | @some queue queueOther pair =>
      obtain ⟨answered, left⟩ := pair.post renamed
      have live : queueOther.isLive sender = queue.isLive sender := by
        rw [Channel.isLive, Channel.isLive, pair.senders]
      simp only [Option.elim_some, Option.map_some, live]
      split
      · exact ⟨answered, .some left⟩
      · exact ⟨.noSender, .some pair⟩

theorem tryNext (h : bench.Varies Renames other) :
    Option.Rel Renames bench.tryNext.1 other.tryNext.1 ∧
      bench.tryNext.2.Varies Renames other.tryNext.2 := by
  have queues := h.queue
  rw [tryNext_eq, tryNext_eq]
  generalize hqueue : bench.queue = queue at queues
  generalize hqueueOther : other.queue = queueOther at queues
  cases queues with
  | none => exact ⟨.none, h.chips, .none, h.ran⟩
  | some pair => exact ⟨pair.tryNext.1, h.chips, .some pair.tryNext.2, h.ran⟩

end Bench.Varies

/-! ## Runs of handlers -/

theorem Routine.Varies.run {routine other : Routine} (h : routine.Varies Renames other)
    (recorder : Recorder) {bench benchOther : Bench} (hbench : bench.Varies Renames benchOther) :
    other.reports recorder benchOther = routine.reports recorder bench ∧
      (other.run recorder benchOther).1 = (routine.run recorder bench).1 ∧
      (routine.run recorder bench).2.Varies Renames (other.run recorder benchOther).2 := by
  induction h generalizing recorder bench benchOther with
  | done => exact ⟨rfl, rfl, hbench⟩
  | report made later ih =>
      obtain ⟨reports, left⟩ := ih (recorder.accept made).1 (hbench.say _ _)
      refine ⟨?_, left⟩
      rw [reports_report, reports_report]
      exact congrArg (List.cons made) reports
  | look later ih => exact ih _ recorder hbench
  | post sender renamed later ih =>
      obtain ⟨answered, posted⟩ := hbench.post sender renamed
      exact ih _ _ answered recorder posted
  | note noted later ih => exact ih recorder (hbench.note noted)

namespace Handler.Varies

variable {handler other : Handler} {bench benchOther : Bench}

theorem start (h : handler.Varies Renames other) (hbench : bench.Varies Renames benchOther)
    (same : ∀ event, Renames event event) :
    (handler.start bench).1.Varies Renames (other.start benchOther).1 ∧
      (handler.start bench).2.Varies Renames (other.start benchOther).2 := by
  cases h with
  | routine alike runs => exact ⟨alike runs, hbench⟩
  | chipLine chip =>
      rw [Handler.start, Handler.start, hbench.chips]
      cases (bench.chips chip).service with
      | none => exact ⟨.done, hbench.say _ _⟩
      | some serviced => exact ⟨.refl same _, hbench.setChip chip serviced.2⟩
  | chipTimer chip report =>
      rw [Handler.start, Handler.start, hbench.chips]
      exact ⟨.refl same _, hbench.setChip chip _⟩

theorem run (h : handler.Varies Renames other) (hbench : bench.Varies Renames benchOther)
    (same : ∀ event, Renames event event) (recorder : Recorder) :
    other.reports recorder benchOther = handler.reports recorder bench ∧
      (other.run recorder benchOther).1 = (handler.run recorder bench).1 ∧
      (handler.run recorder bench).2.Varies Renames (other.run recorder benchOther).2 := by
  obtain ⟨routine, started⟩ := h.start hbench same
  exact routine.run recorder started

end Handler.Varies

end RadioInterrupt
