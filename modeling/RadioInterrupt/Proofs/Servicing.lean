import Mathlib.Data.List.Forall2
import RadioInterrupt.Proofs.Draining
import RadioInterrupt.Proofs.Installation
import RadioInterrupt.SimulatedRadio

/-!
# Dispatches that service a chip

A dispatch to the line handler of a chip services the oldest cause that the chip has latched: it
reports that cause and takes it off the chip, and posts nothing.  A drain in which every event that
waits finds a cause services as many causes as events waited, in the order in which they were
latched.
-/

namespace RadioInterrupt

/-- A run that services the cause, in some mode of the chip, reports it and nothing else. -/
def Cause.ServicedBy (cause : Cause) (reports : List Report) : Prop :=
  ∃ mode, reports = [cause.report mode]

def Report.resultOf (reports : List Report) : Except Unconfigured Outcome :=
  .ok (reports.head?.elim .busy Report.outcome)

theorem Cause.resultOf_ne_of_mem {causes : List Cause} {reports : List (List Report)}
    (h : List.Forall₂ ServicedBy causes reports) {made : List Report} (member : made ∈ reports) :
    Report.resultOf made ≠ .ok .busy := by
  induction h with
  | nil => cases member
  | cons servicedBy later ih =>
      rcases List.mem_cons.mp member with rfl | member
      · obtain ⟨mode, rfl⟩ := servicedBy
        intro same
        exact Report.outcome_ne_busy _ (Except.ok.inj same)
      · exact ih member

theorem Handler.start_chipLine {bench : Bench} {number : Nat} {cause : Cause} {rest : List Cause}
    (oldest : (bench.chips number).pending = cause :: rest) :
    (chipLine number).start bench =
      (.report (cause.report (bench.chips number).mode) .done,
        bench.setChip number { bench.chips number with
          pending := rest, mode := (bench.chips number).modeAfter cause }) := by
  rw [start, Chip.service_of_cons oldest]

theorem SimulatedRadio.pending_perform (radio : SimulatedRadio) (request : Command)
    (bench : Bench) :
    ((radio.perform request bench).2.chips radio.chip).pending =
      (bench.chips radio.chip).pending := by
  have kept (chip : Chip) (hchip : command (bench.chips radio.chip) request = .ok chip) :
      chip.pending = (bench.chips radio.chip).pending := by
    cases request with
    | send payload =>
        rw [command, Chip.send] at hchip
        split at hchip
        · cases hchip
        · cases hchip
          rfl
    | sleep | setChannel | setPublicNetwork | configureTransmit | configureReceive | receive =>
        cases hchip
        rfl
  rw [perform]
  cases hchip : command (bench.chips radio.chip) request with
  | error error => rfl
  | ok chip =>
      rw [← kept chip hchip]
      exact congrArg Chip.pending (bench.chips_setChip_self radio.chip chip)

theorem SimulatedRadio.handler?_install (radio : SimulatedRadio) (dispatcher : Dispatcher)
    (board : SimulatedBoard) (bench : Bench) {done : Unit}
    (succeeded : (dispatcher.install radio board bench).result = .ok done) :
    (dispatcher.install radio board bench).dispatcher.handler? (.line 0) =
      some (.chipLine radio.chip) := by
  have responsive : radio.responsive = true := by
    cases answers : radio.responsive with
    | true => rfl
    | false =>
        have failed : (dispatcher.bringingUp radio board bench).1 = .error .noResponse := by
          change (radio.bringUp board _).1 = _
          rw [bringUp, answers, if_neg nofun]
        rw [Dispatcher.result_install, failed] at succeeded
        cases succeeded
  rw [Dispatcher.handler?_install, succeeded]
  change Request.leave (radio.requests board) _ = _
  rw [requests, if_pos responsive]
  cases board.timers <;> rfl

namespace Dispatcher

/-! ## One dispatch -/

section OneDispatch

variable {dispatcher : Dispatcher} {event : Event} {bench : Bench} {number : Nat} {cause : Cause}
  {rest : List Cause}

theorem servicedBy_reports (held : dispatcher.handler? event.slot = some (.chipLine number))
    (oldest : (bench.chips number).pending = cause :: rest) :
    cause.ServicedBy (dispatcher.reports event bench) := by
  refine ⟨(bench.chips number).mode, ?_⟩
  rw [reports_of_some held, Handler.reports, Handler.start_chipLine oldest]
  rfl

theorem pending_dispatch (held : dispatcher.handler? event.slot = some (.chipLine number))
    (oldest : (bench.chips number).pending = cause :: rest) :
    ((dispatcher.dispatch event bench).bench.chips number).pending = rest := by
  rw [dispatch_of_handler held]
  change ((Handler.run _ _ bench).2.chips number).pending = rest
  rw [Handler.run, Routine.chips_run, Handler.start_chipLine oldest, Bench.chips_setChip_self]

theorem queue_dispatch (held : dispatcher.handler? event.slot = some (.chipLine number))
    (oldest : (bench.chips number).pending = cause :: rest) :
    (dispatcher.dispatch event bench).bench.queue = bench.queue := by
  rw [dispatch_of_handler held]
  change (Handler.run _ _ bench).2.queue = bench.queue
  rw [Handler.run, Handler.start_chipLine oldest]
  rfl

theorem handler?_dispatch_chipLine {slot : Slot}
    (held : dispatcher.handler? slot = some (.chipLine number)) (event : Event) (bench : Bench) :
    (dispatcher.dispatch event bench).dispatcher.handler? slot = some (.chipLine number) := by
  rw [handler?_dispatch, held]
  split <;> rfl

end OneDispatch

/-! ## One drain -/

def drainReports (announce : Announce) : Nat → Dispatcher → Bench → List (List Report)
  | 0, _, _ => []
  | limit + 1, dispatcher, bench =>
      match bench.tryNext with
      | (none, _) => []
      | (some event, bench) =>
          let first := dispatcher.dispatch event bench
          dispatcher.reports event bench ::
            drainReports announce limit first.dispatcher
              (first.bench.say (announce event first.result))

structure Services (number : Nat) (bench : Bench) (queue : PostQueue)
    (reports : List (List Report)) (run : DrainRun) : Prop where
  emptied : run.bench.queue = some { queue with waiting := [] }
  handler : run.dispatcher.handler? (.line 0) = some (.chipLine number)
  results : run.outcomes.map Prod.snd = reports.map Report.resultOf
  length : reports.length = queue.waiting.length
  causes : ∃ serviced,
    (bench.chips number).pending = serviced ++ (run.bench.chips number).pending ∧
      List.Forall₂ Cause.ServicedBy serviced reports

theorem services_drainUpTo (announce : Announce) {number : Nat} {limit : Nat}
    {dispatcher : Dispatcher} {bench : Bench} {queue : PostQueue}
    (held : dispatcher.handler? (.line 0) = some (.chipLine number))
    (hqueue : bench.queue = some queue) (lines : ∀ event ∈ queue.waiting, event.slot = .line 0)
    (enough : queue.waiting.length ≤ (bench.chips number).pending.length)
    (below : queue.waiting.length < limit) :
    Services number bench queue (drainReports announce limit dispatcher bench)
      (drainUpTo announce limit dispatcher bench) := by
  -- A dispatch takes one event and one cause, so that `enough` holds for those that are left.
  induction limit generalizing dispatcher bench queue with
  | zero => cases below
  | succ limit ih =>
      cases hwaiting : queue.waiting with
      | nil =>
          have nothing : bench.waiting = [] := by
            rw [Bench.waiting, hqueue]
            exact hwaiting
          rw [drainReports, drainUpTo, Bench.tryNext_of_nil nothing]
          refine ⟨?_, held, rfl, ?_, [], rfl, .nil⟩
          · rw [hqueue, ← hwaiting]
          · rw [hwaiting]
            rfl
      | cons event others =>
          let shorter : PostQueue := { queue with waiting := others }
          let left : Bench := { bench with queue := some shorter }
          have found : bench.tryNext = (some event, left) :=
            Bench.tryNext_of_cons hqueue hwaiting
          have reached : dispatcher.handler? event.slot = some (.chipLine number) := by
            rw [lines event (hwaiting ▸ List.mem_cons_self), held]
          obtain ⟨cause, rest, oldest⟩ : ∃ cause rest,
              (left.chips number).pending = cause :: rest := by
            refine List.exists_cons_of_length_pos (Nat.lt_of_lt_of_le ?_ enough)
            rw [hwaiting]
            exact Nat.succ_pos _
          rw [hwaiting, List.length_cons] at enough below
          let first := dispatcher.dispatch event left
          let after := first.bench.say (announce event first.result)
          have pending : (after.chips number).pending = rest := pending_dispatch reached oldest
          have remaining : others.length ≤ (after.chips number).pending.length := by
            have whole := congrArg List.length oldest
            rw [List.length_cons] at whole
            change (bench.chips number).pending.length = _ at whole
            rw [pending]
            omega
          have hafter : after.queue = some shorter := queue_dispatch reached oldest
          have later := ih (handler?_dispatch_chipLine held event left) hafter
            (fun other h => lines other (hwaiting ▸ List.mem_cons_of_mem event h)) remaining
            (Nat.lt_of_succ_lt_succ below)
          have result : first.result = Report.resultOf (dispatcher.reports event left) :=
            result_of_some reached left
          obtain ⟨serviced, split, all⟩ := later.causes
          rw [drainReports, drainUpTo, found]
          refine ⟨later.emptied, later.handler, ?_, ?_, cause :: serviced, ?_, ?_⟩
          · exact congrArg₂ List.cons result later.results
          · rw [List.length_cons, later.length, hwaiting]
            rfl
          · rw [pending] at split
            exact oldest.trans (congrArg (List.cons cause) split)
          · exact .cons (servicedBy_reports reached oldest) all

theorem services_drain (announce : Announce) {number : Nat} {dispatcher : Dispatcher}
    {bench : Bench} {queue : PostQueue}
    (held : dispatcher.handler? (.line 0) = some (.chipLine number))
    (hqueue : bench.queue = some queue) (lines : ∀ event ∈ queue.waiting, event.slot = .line 0)
    (enough : queue.waiting.length ≤ (bench.chips number).pending.length)
    (small : queue.waiting.length ≤ Channel.capacityLimit) :
    Services number bench queue (drainReports announce drainLimit dispatcher bench)
      (dispatcher.drain bench announce) := by
  have below : queue.waiting.length < drainLimit :=
    calc
      queue.waiting.length ≤ Channel.capacityLimit := small
      _ < drainLimit := by decide
  have served := services_drainUpTo announce held hqueue lines enough below
  obtain ⟨messages, same⟩ := exists_drain_eq announce dispatcher bench
  rw [same]
  exact ⟨served.emptied, served.handler, served.results, served.length, served.causes⟩

end Dispatcher

end RadioInterrupt
