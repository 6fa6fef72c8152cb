import RadioInterrupt.Proofs.LastFrame
import RadioInterrupt.Proofs.Servicing

/-!
# Causes of a chip, from latching to service

A chip's causes leave it in one way only: its line handler takes the oldest one in each run.  The
driver of the chip, other drivers, handlers and the bench around them change modes and settings and
send frames, and leave the latched causes alone.  So whatever is done, the causes that were latched
are those that were serviced followed by those that are still there.
-/

namespace RadioInterrupt

inductive Cause.EndsAs : Cause → Outcome → Prop
  | txDone : EndsAs .txDone .txDone
  | rxDone (frame : Frame) : EndsAs (.rxDone frame) .rxDone
  | txTimeout : EndsAs .timeout .txTimeout
  | rxTimeout : EndsAs .timeout .rxTimeout
  | crcError : EndsAs .crcError .rxError
  | headerError : EndsAs .headerError .rxError

theorem Cause.endsAs_report (cause : Cause) (mode : Mode) :
    cause.EndsAs (cause.report mode).outcome := by
  cases cause with
  | txDone => exact .txDone
  | rxDone frame => exact .rxDone frame
  | timeout =>
      cases mode with
      | transmit => exact .txTimeout
      | sleep | standby | receive => exact .rxTimeout
  | crcError => exact .crcError
  | headerError => exact .headerError

/-- The dispatch serviced the cause: it reported nothing else and ended in its outcome. -/
structure Cause.ServicedIn (cause : Cause) (made : Dispatched) : Prop where
  reports : cause.ServicedBy made.reports
  result : ∃ outcome, cause.EndsAs outcome ∧ made.result = .ok outcome

theorem Event.slot_eq_line_zero_iff {event : Event} :
    event.slot = .line 0 ↔ event = .line 0 ∨ event = .line 1 := by
  cases event with
  | line pin =>
      revert pin
      decide
  | timer timer => simp

/-! ## What leaves the causes of a chip alone -/

def Bench.pending (bench : Bench) (number : Nat) : List Cause :=
  (bench.chips number).pending

theorem Bench.pending_setChip (bench : Bench) {chip : Nat} {changed : Chip}
    (h : changed.pending = bench.pending chip) (number : Nat) :
    (bench.setChip chip changed).pending number = bench.pending number := by
  by_cases same : number = chip
  · rw [same, pending, chips_setChip_self, h]
  · rw [pending, chips_setChip_of_ne bench changed same]
    rfl

namespace Handler

def chip? : Handler → Option Nat
  | .chipLine number => some number
  | _ => none

@[simp] theorem chip?_advance (handler : Handler) : handler.advance.chip? = handler.chip? := by
  cases handler <;> rfl

theorem eq_chipLine {handler : Handler} {number : Nat} (h : handler.chip? = some number) :
    handler = .chipLine number := by
  cases handler with
  | chipLine other =>
      cases h
      rfl
  | routine | chipTimer => cases h

theorem pending_run {handler : Handler} {number : Nat} (h : handler.chip? ≠ some number)
    (recorder : Recorder) (bench : Bench) :
    (handler.run recorder bench).2.pending number = bench.pending number := by
  rw [Bench.pending, run, Routine.chips_run]
  cases handler with
  | routine behaviour runs => rfl
  | chipLine other =>
      have apart : number ≠ other := by
        rintro rfl
        exact h rfl
      rw [start]
      cases (bench.chips other).service with
      | none => rfl
      | some serviced => exact congrArg Chip.pending (bench.chips_setChip_of_ne _ apart)
  | chipTimer chip report =>
      have idle : (bench.chips chip).standby.pending = bench.pending chip := rfl
      exact bench.pending_setChip idle number

end Handler

/-- A driver whose calls neither latch nor service a cause of the chip. -/
class SparesCauses (number : Nat) (δ : Type) {β ε : Type} [Driver δ β ε] : Prop where
  bringUp : ∀ (driver : δ) (board : β) answers bench,
    (Driver.bringUp driver board answers bench).2.2.pending number = bench.pending number
  perform : ∀ (driver : δ) command bench,
    (Driver.perform driver command bench).2.2.pending number = bench.pending number

theorem SimulatedRadio.pending_perform_any (radio : SimulatedRadio) (request : Command)
    (bench : Bench) (number : Nat) :
    (radio.perform request bench).2.pending number = bench.pending number := by
  have own := radio.pending_perform request bench
  rw [perform] at own ⊢
  cases hchip : command (bench.chips radio.chip) request with
  | error error => rfl
  | ok chip =>
      simp only [hchip, Bench.chips_setChip_self] at own
      exact bench.pending_setChip own number

instance (number : Nat) : SparesCauses number SimulatedRadio where
  bringUp radio board answers bench := by
    change (radio.bringUp board bench).2.pending number = _
    have up : (bench.chips radio.chip).bringUp.pending = bench.pending radio.chip := rfl
    rw [SimulatedRadio.bringUp]
    cases radio.responsive with
    | true => exact bench.pending_setChip up number
    | false => rfl
  perform radio command bench := radio.pending_perform_any command bench number

theorem ScriptedDriver.chips_noteAnswers (answers : List RequestAnswer) (bench : Bench) :
    (noteAnswers answers bench).chips = bench.chips := by
  induction answers generalizing bench with
  | nil => rfl
  | cons answer answers ih => exact ih (bench.note (.registered answer))

instance (number : Nat) : SparesCauses number ScriptedDriver where
  bringUp _ _ answers bench := by
    have same := ScriptedDriver.chips_noteAnswers answers bench
    exact congrArg (fun chips => (chips number).pending) same
  perform _ _ _ := rfl

namespace Dispatcher

variable {dispatcher : Dispatcher} {event : Event} {bench : Bench} {number : Nat}

theorem pending_install {δ β ε : Type} [Driver δ β ε] [SparesCauses number δ]
    (dispatcher : Dispatcher) (driver : δ) (board : β) (bench : Bench) :
    (dispatcher.install driver board bench).bench.pending number = bench.pending number :=
  dispatcher.read_install (·.pending number) (fun _ _ => rfl) driver board bench
    (SparesCauses.bringUp driver board) fun driver => SparesCauses.perform driver .sleep

theorem pending_dispatch_of_other
    (h : (dispatcher.handler? event.slot).bind Handler.chip? ≠ some number) (bench : Bench) :
    (dispatcher.dispatch event bench).bench.pending number = bench.pending number := by
  cases held : dispatcher.handler? event.slot with
  | none =>
      obtain ⟨_, unchanged⟩ := bench_of_none held bench
      rw [unchanged]
      rfl
  | some handler =>
      rw [held] at h
      rw [dispatch_of_handler held]
      exact Handler.pending_run h _ bench

theorem reports_of_spurious (held : dispatcher.handler? event.slot = some (.chipLine number))
    (nothing : bench.pending number = []) :
    dispatcher.reports event bench = [] ∧
      (dispatcher.dispatch event bench).bench.chips = bench.chips := by
  have started : (Handler.chipLine number).start bench = (.done, bench.say [.spurious]) := by
    rw [Handler.start, Chip.service_of_nil nothing]
  constructor
  · rw [reports_of_some held, Handler.reports, started]
    rfl
  · rw [dispatch_of_handler held]
    change (Handler.run _ _ bench).2.chips = _
    rw [Handler.run, Routine.chips_run, started]
    rfl

theorem dispatch_of_frame {frame : Frame}
    (h : (dispatcher.reports event bench).head? = some (.rxDone frame)) :
    (dispatcher.dispatch event bench).dispatcher.info = .ofFrame frame ∧
      (dispatcher.dispatch event bench).dispatcher.inbox.registered =
        dispatcher.inbox.registered.map (overlay frame.payload) := by
  refine ⟨info_dispatch_of_frame h, ?_⟩
  have accepted : dispatcher.accepted event bench = some frame := by
    simp [Dispatcher.accepted, h, Report.frame?]
  rw [inbox_dispatch, accepted, Option.elim_some, Inbox.registered_fill]

end Dispatcher

/-! ## What is done around a chip -/

def Request.Sited (number : Nat) (request : Request) : Prop :=
  ∀ slot handler, some handler ∈ request.writes slot → handler.chip? = some number →
    slot = .line 0

def Operation.Spares (number : Nat) : Operation → Prop
  | .register request => request.Sited number
  | @Operation.install δ _ _ _ driver board =>
      SparesCauses number δ ∧ ∀ request ∈ Driver.requests driver board, request.Sited number
  | .arrange change => ∀ bench, (change bench).pending number = bench.pending number
  | _ => True

inductive Doing (number : Nat) : Type 1 where
  | latch (chip : Nat) (cause : Cause)
  | command (radio : SimulatedRadio) (request : Command)
  | install (radio : SimulatedRadio) (board : SimulatedBoard)
  | other (operation : Operation) (spares : operation.Spares number)

namespace Doing

variable {number : Nat}

def operation : Doing number → Operation
  | .latch chip cause =>
      .arrange fun bench => bench.setChip chip ((bench.chips chip).latch cause)
  | .command radio request => .arrange fun bench => (radio.perform request bench).2
  | .install radio board => .install radio board
  | .other operation _ => operation

def latched? : Doing number → Option Cause
  | .latch chip cause => if chip = number then some cause else none
  | _ => none

end Doing

theorem SimulatedRadio.sited_of_mem_requests {radio : SimulatedRadio} {board : SimulatedBoard}
    {request : Request} (h : request ∈ radio.requests board) (number : Nat) :
    request.Sited number := by
  intro slot handler written serviced
  rw [requests] at h
  split at h
  · rcases List.mem_cons.mp h with rfl | timers
    · cases slot with
      | line place =>
          have zero : 0 = place.val := by
            by_contra apart
            simp [Request.writes, apart] at written
          exact congrArg Slot.line (Fin.ext zero.symm)
      | timer place => simp [Request.writes] at written
    · split at timers
      · rcases List.mem_pair.mp timers with rfl | rfl <;> cases slot <;>
          simp [Request.writes] at written
        all_goals
          obtain ⟨-, rfl⟩ := written
          cases serviced
      · cases timers
  · cases h

theorem SimulatedRadio.spares_install (radio : SimulatedRadio) (board : SimulatedBoard)
    (number : Nat) : (Operation.install radio board).Spares number :=
  ⟨inferInstance, fun _ h => sited_of_mem_requests h number⟩

namespace Doing

variable {number : Nat} {doing : Doing number}

theorem eq_latch {cause : Cause} (h : doing.latched? = some cause) :
    doing = .latch number cause := by
  cases doing with
  | latch chip other =>
      rw [latched?, Option.ite_none_right_eq_some] at h
      rw [h.1, Option.some.inj h.2]
  | command | install | other => cases h

theorem spares_of_none (h : doing.latched? = none) : doing.operation.Spares number := by
  cases doing with
  | latch chip cause =>
      have apart : number ≠ chip := by
        rintro rfl
        simp [latched?] at h
      intro bench
      exact congrArg Chip.pending (bench.chips_setChip_of_ne _ apart)
  | command radio request => exact fun bench => radio.pending_perform_any request bench number
  | install radio board => exact radio.spares_install board number
  | other operation spares => exact spares

end Doing

/-! ## The services in the journal -/

def Dispatched.services (number : Nat) (made : Dispatched) : Bool :=
  made.handler.bind Handler.chip? == some number && !made.reports.isEmpty

namespace Entry

def service? (number : Nat) : Entry → Option Dispatched
  | .dispatched made => if made.services number then some made else none
  | _ => none

def services (number : Nat) (journal : List Entry) : List Dispatched :=
  journal.reverse.filterMap (service? number)

theorem services_cons (number : Nat) (entry : Entry) (journal : List Entry) :
    services number (entry :: journal) =
      services number journal ++ (entry.service? number).toList := by
  rw [services, List.reverse_cons, List.filterMap_append]
  cases h : entry.service? number <;> simp [h, services]

theorem services_cons_of_none {number : Nat} {entry : Entry} (h : entry.service? number = none)
    (journal : List Entry) : services number (entry :: journal) = services number journal := by
  rw [services_cons, h, Option.toList_none, List.append_nil]

theorem service?_of_silent {made : Dispatched} (h : made.reports = []) (number : Nat) :
    (dispatched made).service? number = none := by
  simp [service?, Dispatched.services, h]

theorem service?_of_other {made : Dispatched} {number : Nat}
    (h : made.handler.bind Handler.chip? ≠ some number) :
    (dispatched made).service? number = none := by
  simp [service?, Dispatched.services, h]

end Entry

theorem Dispatcher.servicedIn_observe {dispatcher : Dispatcher} {event : Event} {bench : Bench}
    {number : Nat} {cause : Cause} {rest : List Cause}
    (held : dispatcher.handler? event.slot = some (.chipLine number))
    (oldest : bench.pending number = cause :: rest) :
    let made := dispatcher.observe event bench
    (Entry.dispatched made).service? number = some made ∧ cause.ServicedIn made := by
  intro made
  obtain ⟨mode, reports⟩ := servicedBy_reports held oldest
  refine ⟨?_, ⟨mode, reports⟩, _, cause.endsAs_report mode, ?_⟩
  · simp [Entry.service?, Dispatched.services, made, observe, held, reports, Handler.chip?]
  · change (dispatcher.dispatch event bench).result = _
    rw [result_of_some held, reports]
    rfl

namespace Course

/-- The causes that were latched on the chip are those that were serviced and those that are left,
and its handler is nowhere but at slot 0. -/
structure Conserves (number : Nat) (latched : List Cause) (course : Course) : Prop where
  causes : ∃ serviced, latched = serviced ++ course.bench.pending number ∧
    List.Forall₂ Cause.ServicedIn serviced (Entry.services number course.journal)
  sited : ∀ slot handler, course.dispatcher.handler? slot = some handler →
    handler.chip? = some number → slot = .line 0

variable {number : Nat} {latched : List Cause} {course : Course}

theorem conserves_start (region : Bytes) (bench : Bench) :
    (start region bench).Conserves number (bench.pending number) where
  causes := ⟨[], rfl, .nil⟩
  sited slot handler held := by
    have none : (start region bench).dispatcher.handler? slot = none := Registry.handler?_empty slot
    rw [none] at held
    cases held

theorem Conserves.keep {next : Course} (h : course.Conserves number latched)
    (pending : next.bench.pending number = course.bench.pending number)
    (services : Entry.services number next.journal = Entry.services number course.journal)
    (sited : ∀ slot handler, next.dispatcher.handler? slot = some handler →
      handler.chip? = some number → slot = .line 0) :
    next.Conserves number latched where
  causes := by
    rw [pending, services]
    exact h.causes
  sited := sited

theorem Conserves.arrange (h : course.Conserves number latched) {change : Bench → Bench}
    (kept : (change course.bench).pending number = course.bench.pending number) :
    (course.arrange change).Conserves number latched :=
  h.keep kept rfl h.sited

theorem Conserves.latch (h : course.Conserves number latched) (cause : Cause) :
    (course.arrange fun bench =>
      bench.setChip number ((bench.chips number).latch cause)).Conserves number
        (latched ++ [cause]) where
  causes := by
    obtain ⟨serviced, whole, all⟩ := h.causes
    refine ⟨serviced, ?_, all⟩
    rw [whole, List.append_assoc]
    simp [Course.arrange, Bench.pending, Chip.latch]
  sited := h.sited

theorem Conserves.register (h : course.Conserves number latched) {request : Request}
    (sited : request.Sited number) : (course.register request).Conserves number latched := by
  refine h.keep rfl (Entry.services_cons_of_none rfl _) ?_
  intro slot handler held serviced
  change (course.dispatcher.toRegistry.perform request).2.1.handler? slot = _ at held
  rw [Registry.handler?_perform] at held
  cases written : (request.writes slot).getLast? with
  | none =>
      rw [written] at held
      exact h.sited slot handler held serviced
  | some last =>
      rw [written, Option.getD_some] at held
      exact sited slot handler (held ▸ List.mem_of_getLast? written) serviced

theorem Conserves.install (h : course.Conserves number latched) {δ β ε : Type} [Driver δ β ε]
    [SparesCauses number δ] {driver : δ} {board : β}
    (sited : ∀ request ∈ Driver.requests driver board, request.Sited number) :
    (course.install driver board).Conserves number latched := by
  refine h.keep (course.dispatcher.pending_install driver board course.bench)
    (Entry.services_cons_of_none rfl _) ?_
  intro slot handler held serviced
  change (course.dispatcher.install driver board course.bench).dispatcher.handler? slot = _ at held
  rw [Dispatcher.handler?_install] at held
  split at held
  · obtain ⟨request, member, written⟩ := Request.exists_of_leave held
    exact sited request member slot handler written serviced
  · cases held

theorem Conserves.sited_dispatch (h : course.Conserves number latched) (event : Event)
    {slot : Slot} {handler : Handler}
    (held : (course.dispatch event).dispatcher.handler? slot = some handler)
    (ofChip : handler.chip? = some number) : slot = .line 0 := by
  change (course.dispatcher.dispatch event course.bench).dispatcher.handler? slot = _ at held
  rw [Dispatcher.handler?_dispatch] at held
  split at held
  · obtain ⟨earlier, found, rfl⟩ := Option.map_eq_some_iff.mp held
    exact h.sited slot earlier found (earlier.chip?_advance ▸ ofChip)
  · exact h.sited slot handler held ofChip

theorem Conserves.dispatch (h : course.Conserves number latched) (event : Event) :
    (course.dispatch event).Conserves number latched := by
  let made := course.dispatcher.observe event course.bench
  have sited : ∀ slot handler, (course.dispatch event).dispatcher.handler? slot = some handler →
      handler.chip? = some number → slot = .line 0 :=
    fun _ _ held ofChip => h.sited_dispatch event held ofChip
  by_cases own : (course.dispatcher.handler? event.slot).bind Handler.chip? = some number
  · obtain ⟨handler, held, ofChip⟩ := Option.bind_eq_some_iff.mp own
    obtain rfl := handler.eq_chipLine ofChip
    cases oldest : course.bench.pending number with
    | nil =>
        obtain ⟨silent, chips⟩ := Dispatcher.reports_of_spurious held oldest
        have none : (Entry.dispatched made).service? number = none :=
          Entry.service?_of_silent silent number
        refine h.keep ?_ (Entry.services_cons_of_none none _) sited
        exact congrArg (fun chips => (chips number).pending) chips
    | cons cause rest =>
        obtain ⟨serviced, whole, all⟩ := h.causes
        obtain ⟨one, servicedIn⟩ := Dispatcher.servicedIn_observe held oldest
        have left : (course.dispatch event).bench.pending number = rest :=
          Dispatcher.pending_dispatch held oldest
        refine ⟨⟨serviced ++ [cause], ?_, ?_⟩, sited⟩
        · rw [left, whole, oldest, List.append_assoc]
          rfl
        · change List.Forall₂ _ _ (Entry.services number (.dispatched made :: course.journal))
          rw [Entry.services_cons, one]
          exact List.rel_append all (.cons servicedIn .nil)
  · have none : (Entry.dispatched made).service? number = none := Entry.service?_of_other own
    exact h.keep (Dispatcher.pending_dispatch_of_other own _)
      (Entry.services_cons_of_none none _) sited

theorem Conserves.drain (h : course.Conserves number latched) (announce : Dispatcher.Announce) :
    (course.drain announce).Conserves number latched := by
  refine drain_keeps (fun _ event earlier => earlier.dispatch event) ?_ announce h
  intro earlier change chips kept
  exact kept.arrange (congrArg (fun chips => (chips number).pending) chips)

theorem Conserves.perform (h : course.Conserves number latched) {operation : Operation}
    (spares : operation.Spares number) : (course.perform operation).Conserves number latched := by
  cases operation with
  | register request => exact h.register spares
  | install driver board =>
      obtain ⟨_, sited⟩ := spares
      exact h.install sited
  | dispatch event => exact h.dispatch event
  | drain announce => exact h.drain announce
  | arrange change => exact h.arrange (spares course.bench)
  | setBuffer buffer => exact h.keep rfl (Entry.services_cons_of_none rfl _) h.sited
  | takeBuffer => exact h.keep rfl (Entry.services_cons_of_none rfl _) h.sited
  | resetCounters => exact h.keep rfl (Entry.services_cons_of_none rfl _) h.sited

theorem Conserves.doing (h : course.Conserves number latched) (doing : Doing number) :
    (course.perform doing.operation).Conserves number (latched ++ doing.latched?.toList) := by
  cases one : doing.latched? with
  | none =>
      rw [Option.toList_none, List.append_nil]
      exact h.perform (Doing.spares_of_none one)
  | some cause =>
      obtain rfl := Doing.eq_latch one
      exact h.latch cause

theorem Conserves.run (h : course.Conserves number latched) (doings : List (Doing number)) :
    (course.run (doings.map Doing.operation)).Conserves number
      (latched ++ doings.filterMap Doing.latched?) := by
  induction doings generalizing course latched with
  | nil =>
      rw [List.filterMap_nil, List.append_nil]
      exact h
  | cons doing doings ih =>
      have later := ih (h.doing doing)
      have split : (doing :: doings).filterMap Doing.latched? =
          doing.latched?.toList ++ doings.filterMap Doing.latched? := by
        cases one : doing.latched? <;> simp [one]
      rw [split, ← List.append_assoc]
      exact later

/-- Whatever is done around a chip, the dispatches that its handler reported in serviced the first
causes that were latched, in order, and the others are still pending.  While its handler is at slot
0, an event on lines 0 and 1 services the oldest pending cause: it ends as the cause says, and a
frame is described and laid over the registered buffer.  Where nothing is pending it ends busy and
touches no chip.  Other events and the calls to drivers leave the pending causes as they are. -/
theorem causes_serviced_oldest_first (number : Nat) (region : Bytes) (bench : Bench)
    (doings : List (Doing number)) :
    let course := (start region bench).run (doings.map Doing.operation)
    let latched := bench.pending number ++ doings.filterMap Doing.latched?
    let services := Entry.services number course.journal
    let pending := course.bench.pending number
    (List.Forall₂ Cause.ServicedIn (latched.take services.length) services ∧
      pending = latched.drop services.length) ∧
    (∀ (radio : SimulatedRadio) board, radio.chip = number →
      (course.dispatcher.install radio board course.bench).result = .ok () →
      (course.install radio board).dispatcher.handler? (.line 0) = some (.chipLine number)) ∧
    (course.dispatcher.handler? (.line 0) = some (.chipLine number) →
      ∀ event, event = .line 0 ∨ event = .line 1 →
        let run := course.dispatcher.dispatch event course.bench
        (pending = [] → run.result = .ok .busy ∧ run.bench.chips = course.bench.chips) ∧
        ∀ cause rest, pending = cause :: rest →
          run.bench.pending number = rest ∧
          (∃ outcome, cause.EndsAs outcome ∧ run.result = .ok outcome) ∧
          ∀ frame, cause = .rxDone frame →
            run.dispatcher.info.length.toNat = min frame.payload.length 65535 ∧
            run.dispatcher.info.rssi = frame.rssi ∧ run.dispatcher.info.snr = frame.snr ∧
            run.dispatcher.inbox.registered =
              course.dispatcher.inbox.registered.map (overlay frame.payload)) ∧
    (∀ event, event ≠ .line 0 → event ≠ .line 1 →
      (course.dispatch event).bench.pending number = pending) ∧
    (∀ (radio : SimulatedRadio) request,
      (radio.perform request course.bench).2.pending number = pending) ∧
    ∀ (radio : SimulatedRadio) board,
      (course.install radio board).bench.pending number = pending := by
  intro course latched services pending
  have h : course.Conserves number latched := (conserves_start region bench).run doings
  refine ⟨?_, ?_, ?_, ?_, ?_, ?_⟩
  · obtain ⟨serviced, whole, all⟩ := h.causes
    have length : serviced.length = services.length := all.length_eq
    rw [whole, ← length, List.take_left, List.drop_left]
    exact ⟨all, rfl⟩
  · rintro radio board rfl succeeded
    exact radio.handler?_install course.dispatcher board course.bench succeeded
  · intro installed event onSlot run
    have held : course.dispatcher.handler? event.slot = some (.chipLine number) := by
      rw [Event.slot_eq_line_zero_iff.mpr onSlot, installed]
    refine ⟨fun nothing => ?_, fun cause rest oldest => ⟨?_, ?_, ?_⟩⟩
    · obtain ⟨silent, chips⟩ := Dispatcher.reports_of_spurious held nothing
      refine ⟨?_, chips⟩
      change (course.dispatcher.dispatch event course.bench).result = _
      rw [Dispatcher.result_of_some held, silent]
      rfl
    · exact Dispatcher.pending_dispatch held oldest
    · exact (Dispatcher.servicedIn_observe held oldest).2.result
    · rintro frame rfl
      obtain ⟨mode, reports⟩ := Dispatcher.servicedBy_reports held oldest
      have first : (course.dispatcher.reports event course.bench).head? = some (.rxDone frame) := by
        rw [reports]
        rfl
      obtain ⟨info, registered⟩ := Dispatcher.dispatch_of_frame first
      rw [show run.dispatcher.info = _ from info]
      exact ⟨FrameInfo.toNat_clampLength _, rfl, rfl, registered⟩
  · intro event notZero notOne
    apply Dispatcher.pending_dispatch_of_other
    intro own
    obtain ⟨handler, held, ofChip⟩ := Option.bind_eq_some_iff.mp own
    rcases Event.slot_eq_line_zero_iff.mp (h.sited _ handler held ofChip) with zero | one
    · exact notZero zero
    · exact notOne one
  · intro radio request
    exact radio.pending_perform_any request course.bench number
  · intro radio board
    exact course.dispatcher.pending_install radio board course.bench

/-- A timeout is latched before the chip sends, and a frame of three bytes after a buffer of two was
registered.  The first dispatch services the timeout as that of a transmission, and the next one
would service the frame. -/
theorem causes_serviced_oldest_first_two :
    let radio : SimulatedRadio := { chip := 0 }
    let frame : Frame := ⟨[7, 8, 9], -40, 5⟩
    let doings : List (Doing 0) := [.install radio {}, .latch 0 .timeout,
      .command radio (.send [1]), .other (.setBuffer (.owned [0, 0])) trivial,
      .latch 0 (.rxDone frame), .other (.dispatch (.line 1)) trivial]
    let course := (start [] {}).run (doings.map Doing.operation)
    let run := course.dispatcher.dispatch (.line 0) course.bench
    (Entry.services 0 course.journal).map Dispatched.result = [.ok .txTimeout] ∧
      course.bench.pending 0 = [.rxDone frame] ∧ run.bench.pending 0 = [] ∧
      run.dispatcher.info.length.toNat = 3 ∧
      run.dispatcher.inbox.registered = some [7, 8] := by
  intro radio frame doings course run
  obtain ⟨⟨-, left⟩, -, serviced, -⟩ := causes_serviced_oldest_first 0 [] {} doings
  have pending : course.bench.pending 0 = [.rxDone frame] := left
  obtain ⟨rest, -, described⟩ := (serviced rfl (.line 0) (.inl rfl)).2 _ _ pending
  obtain ⟨length, -, -, registered⟩ := described frame rfl
  exact ⟨rfl, pending, rest, length, registered⟩

end Course

end RadioInterrupt
