import RadioInterrupt.Proofs.Latching

/-!
# The operation in flight

A chip is in the mode that the latest call of its driver or the latest run of one of its handlers
has set, and a timeout is reported for the operation that this mode names.  The history of a chip
lists what was done to it, the latest first: calls of its driver, runs of its timer handlers, and
the causes that its line handler serviced.  It is written along a course without a look at the mode
of the chip, and decides that mode and the report of every timeout.
-/

namespace RadioInterrupt

/-! ## Histories -/

inductive Happening where
  | slept
  | sent
  | listened
  | configured (config : ReceiveConfig)
  | expired
  | serviced (cause : Cause) (made : Dispatched)

namespace Happening

def setsMode : Happening → Bool
  | .configured _ => false
  | _ => true

def config? : Happening → Option ReceiveConfig
  | .configured config => some config
  | _ => none

def service? : Happening → Option Dispatched
  | .serviced _ made => some made
  | _ => none

def latest (history : List Happening) : Option Happening :=
  history.find? setsMode

def receiveConfig (history : List Happening) : Option ReceiveConfig :=
  history.findSome? config?

/-- The mode of a chip that was new before the history.  A serviced frame lets a continuous
reception go on; every other cause ends what the chip does. -/
def modeAfter : List Happening → Mode
  | [] => .sleep
  | .slept :: _ => .sleep
  | .sent :: _ => .transmit
  | .listened :: _ => .receive
  | .configured _ :: earlier => modeAfter earlier
  | .expired :: _ => .standby
  | .serviced cause _ :: earlier =>
      if cause.isFrame ∧ modeAfter earlier = .receive ∧
          (receiveConfig earlier).any ReceiveConfig.continuous then .receive
      else .standby

theorem modeAfter_eq_transmit_iff (history : List Happening) :
    modeAfter history = .transmit ↔ latest history = some .sent := by
  induction history with
  | nil => exact ⟨nofun, nofun⟩
  | cons happening earlier ih =>
      cases happening with
      | slept | listened | expired => exact ⟨nofun, nofun⟩
      | sent => exact ⟨fun _ => rfl, fun _ => rfl⟩
      | configured config => exact ih
      | serviced cause made =>
          constructor
          · intro same
            rw [modeAfter] at same
            split at same <;> cases same
          · exact nofun

/-- Each serviced cause was reported, and nothing else was, for the mode that the history before it
gives. -/
def Blamed (history : List Happening) : Prop :=
  ∀ later cause made earlier, history = later ++ .serviced cause made :: earlier →
    made.reports = [cause.report (modeAfter earlier)] ∧
      made.result = .ok (cause.report (modeAfter earlier)).outcome

theorem Blamed.cons {history : List Happening} (h : Blamed history) {happening : Happening}
    (first : ∀ cause made, happening = .serviced cause made →
      made.reports = [cause.report (modeAfter history)] ∧
        made.result = .ok (cause.report (modeAfter history)).outcome) :
    Blamed (happening :: history) := by
  intro later cause made earlier split
  cases later with
  | nil =>
      obtain ⟨rfl, rfl⟩ := List.cons.inj split
      exact first cause made rfl
  | cons latest later => exact h later cause made earlier (List.cons.inj split).2

end Happening

/-! ## What happens to a chip -/

def Handler.owner? : Handler → Option Nat
  | .routine _ _ => none
  | .chipLine number => some number
  | .chipTimer number _ => some number

def Command.happening? : Command → Option Happening
  | .sleep => some .slept
  | .send _ => some .sent
  | .receive _ => some .listened
  | .configureReceive config => some (.configured config)
  | .setChannel _ | .setPublicNetwork _ | .configureTransmit _ => none

namespace Course

def happening? (number : Nat) (course : Course) (event : Event) : Option Happening :=
  match course.dispatcher.handler? event.slot with
  | some (.chipTimer chip _) => if chip = number then some .expired else none
  | some (.chipLine chip) =>
      if chip = number then
        (course.bench.pending number).head?.map fun cause =>
          .serviced cause (course.dispatcher.observe event course.bench)
      else none
  | _ => none

def drainHappenings (number : Nat) (announce : Dispatcher.Announce) : Nat → Course → List Happening
  | 0, _ => []
  | limit + 1, course =>
      match course.bench.tryNext with
      | (none, _) => []
      | (some event, bench) =>
          let taken := course.arrange fun _ => bench
          let result := (course.dispatcher.dispatch event bench).result
          drainHappenings number announce limit
              ((taken.dispatch event).arrange (·.say (announce event result))) ++
            (taken.happening? number event).toList

end Course

/-- A driver whose calls leave the chip as it is. -/
class KeepsChip (number : Nat) (δ : Type) {β ε : Type} [Driver δ β ε] : Prop where
  bringUp : ∀ (driver : δ) (board : β) answers bench,
    (Driver.bringUp driver board answers bench).2.2.chips number = bench.chips number
  perform : ∀ (driver : δ) command bench,
    (Driver.perform driver command bench).2.2.chips number = bench.chips number

instance (number : Nat) : KeepsChip number ScriptedDriver where
  bringUp _ _ answers bench :=
    congrArg (fun chips => chips number) (ScriptedDriver.chips_noteAnswers answers bench)
  perform _ _ _ := rfl

def Operation.KeepsChip (number : Nat) : Operation → Prop
  | @Operation.install δ _ _ _ _ _ => RadioInterrupt.KeepsChip number δ
  | .arrange change => ∀ bench, (change bench).chips number = bench.chips number
  | _ => True

namespace Doing

variable {number : Nat}

def KeepsChip : Doing number → Prop
  | .other operation _ => operation.KeepsChip number
  | _ => True

/-- What is done to the chip, the latest first. -/
def happened (course : Course) : Doing number → List Happening
  | .latch _ _ => []
  | .command radio request =>
      if radio.chip = number ∧ (radio.perform request course.bench).1.isOk then
        request.happening?.toList
      else []
  | .install radio board =>
      if radio.chip = number ∧ (course.dispatcher.install radio board course.bench).result.isOk then
        [.slept]
      else []
  | .other (.dispatch event) _ => (course.happening? number event).toList
  | .other (.drain announce) _ => course.drainHappenings number announce Dispatcher.drainLimit
  | .other _ _ => []

theorem happened_command (course : Course) (radio : SimulatedRadio) (request : Command) :
    (command radio request : Doing number).happened course =
      if radio.chip = number ∧ (radio.perform request course.bench).1.isOk then
        request.happening?.toList
      else [] := rfl

theorem happened_install (course : Course) (radio : SimulatedRadio) (board : SimulatedBoard) :
    (install radio board : Doing number).happened course =
      if radio.chip = number ∧ (course.dispatcher.install radio board course.bench).result.isOk then
        [.slept]
      else [] := rfl

end Doing

def Course.history {number : Nat} : Course → List (Doing number) → List Happening
  | _, [] => []
  | course, doing :: doings =>
      (course.perform doing.operation).history doings ++ doing.happened course

/-! ## Chips after calls and dispatches -/

theorem Handler.chips_start_of_other {handler : Handler} {number : Nat}
    (other : handler.owner? ≠ some number) (bench : Bench) :
    (handler.start bench).2.chips number = bench.chips number := by
  cases handler with
  | routine behaviour runs => rfl
  | chipLine chip =>
      have apart : number ≠ chip := fun same => other (congrArg some same.symm)
      rw [start]
      cases (bench.chips chip).service with
      | none => rfl
      | some serviced => exact bench.chips_setChip_of_ne _ apart
  | chipTimer chip report =>
      have apart : number ≠ chip := fun same => other (congrArg some same.symm)
      exact bench.chips_setChip_of_ne _ apart

theorem Dispatcher.chips_dispatch_of_handler {dispatcher : Dispatcher} {event : Event}
    {handler : Handler} (held : dispatcher.handler? event.slot = some handler) (bench : Bench) :
    (dispatcher.dispatch event bench).bench.chips = (handler.start bench).2.chips := by
  rw [dispatch_of_handler held]
  exact Routine.chips_run _ _ _

theorem Dispatcher.chips_dispatch_of_other {dispatcher : Dispatcher} {event : Event} {number : Nat}
    (other : (dispatcher.handler? event.slot).bind Handler.owner? ≠ some number) (bench : Bench) :
    (dispatcher.dispatch event bench).bench.chips number = bench.chips number := by
  cases held : dispatcher.handler? event.slot with
  | none =>
      obtain ⟨_, unchanged⟩ := bench_of_none held bench
      rw [unchanged]
      rfl
  | some handler =>
      rw [held] at other
      rw [chips_dispatch_of_handler held, handler.chips_start_of_other other]

theorem Dispatcher.chips_install {δ β ε : Type} [Driver δ β ε] {number : Nat} [KeepsChip number δ]
    (dispatcher : Dispatcher) (driver : δ) (board : β) (bench : Bench) :
    (dispatcher.install driver board bench).bench.chips number = bench.chips number :=
  dispatcher.read_install (·.chips number) (fun _ _ => rfl) driver board bench
    (KeepsChip.bringUp driver board) fun driver => KeepsChip.perform driver .sleep

namespace SimulatedRadio

variable (radio : SimulatedRadio) (dispatcher : Dispatcher) (board : SimulatedBoard) (bench : Bench)

theorem install_of_unresponsive (h : radio.responsive = false) :
    let run := dispatcher.install radio board bench
    run.result = .error .noResponse ∧ run.bench.chips = bench.chips := by
  obtain ⟨chip, responsive⟩ := radio
  cases h
  exact ⟨rfl, rfl⟩

theorem install_of_responsive (h : radio.responsive = true) :
    let run := dispatcher.install radio board bench
    run.result = .ok () ∧
      run.bench.chips radio.chip = (bench.chips radio.chip).bringUp.fallAsleep ∧
      ∀ other, other ≠ radio.chip → run.bench.chips other = bench.chips other := by
  obtain ⟨number, responsive⟩ := radio
  cases h
  intro run
  let up := bench.setChip number (bench.chips number).bringUp
  have chips : run.bench.chips = (up.setChip number (up.chips number).fallAsleep).chips := rfl
  refine ⟨rfl, ?_, fun other apart => ?_⟩
  · rw [chips, Bench.chips_setChip_self, Bench.chips_setChip_self]
  · rw [chips, Bench.chips_setChip_of_ne _ _ apart, Bench.chips_setChip_of_ne _ _ apart]

theorem perform_cases (request : Command) :
    (∃ error, radio.perform request bench = (.error error, bench)) ∨
      ∃ chip, command (bench.chips radio.chip) request = .ok chip ∧
        radio.perform request bench = (.ok (), bench.setChip radio.chip chip) := by
  rw [perform]
  cases command (bench.chips radio.chip) request with
  | error error => exact .inl ⟨error, rfl⟩
  | ok chip => exact .inr ⟨chip, rfl, rfl⟩

theorem perform_send_eq_ok_iff (payload : Bytes) :
    (radio.perform (.send payload) bench).1 = .ok () ↔ payload.length ≤ maxPayload := by
  by_cases long : maxPayload < payload.length
  · simp [perform, command, Chip.send, long]
  · simp [perform, command, Chip.send, long, Nat.not_lt.mp long]

end SimulatedRadio

/-! ## Chips that follow a history -/

structure Chip.Follows (history : List Happening) (chip : Chip) : Prop where
  mode : chip.mode = Happening.modeAfter history
  config : chip.receiveConfig = Happening.receiveConfig history

namespace Chip.Follows

variable {chip : Chip} {history : List Happening}

theorem command (h : chip.Follows history) {request : Command} {next : Chip}
    (succeeded : SimulatedRadio.command chip request = .ok next) :
    next.Follows (request.happening?.toList ++ history) := by
  cases request with
  | send payload =>
      rw [SimulatedRadio.command, Chip.send] at succeeded
      split at succeeded
      · cases succeeded
      · cases succeeded
        exact ⟨rfl, h.config⟩
  | sleep | receive timeout =>
      cases succeeded
      exact ⟨rfl, h.config⟩
  | configureReceive config =>
      cases succeeded
      exact ⟨h.mode, rfl⟩
  | setChannel | setPublicNetwork | configureTransmit =>
      cases succeeded
      exact ⟨h.mode, h.config⟩

theorem fallAsleep (h : chip.Follows history) :
    chip.bringUp.fallAsleep.Follows (.slept :: history) :=
  ⟨rfl, h.config⟩

theorem standby (h : chip.Follows history) : chip.standby.Follows (.expired :: history) :=
  ⟨rfl, h.config⟩

theorem latch (h : chip.Follows history) (cause : Cause) : (chip.latch cause).Follows history :=
  ⟨h.mode, h.config⟩

theorem serviced (h : chip.Follows history) (cause : Cause) (rest : List Cause)
    (made : Dispatched) :
    { chip with pending := rest, mode := chip.modeAfter cause }.Follows
      (.serviced cause made :: history) := by
  refine ⟨?_, h.config⟩
  change chip.modeAfter cause = _
  rw [Chip.modeAfter, Chip.continuous, h.mode, h.config]
  rfl

end Chip.Follows

namespace Course

structure Follows (number : Nat) (history : List Happening) (course : Course) : Prop where
  chip : (course.bench.chips number).Follows history
  blamed : Happening.Blamed history
  services : history.filterMap Happening.service? =
    course.journal.filterMap (Entry.service? number)

namespace Follows

variable {number : Nat} {history : List Happening} {course : Course}

theorem keep {next : Course} (h : course.Follows number history)
    (chip : next.bench.chips number = course.bench.chips number)
    (services : next.journal.filterMap (Entry.service? number) =
      course.journal.filterMap (Entry.service? number)) :
    next.Follows number history := by
  refine ⟨?_, h.blamed, h.services.trans services.symm⟩
  rw [chip]
  exact h.chip

theorem happen {next : Course} (h : course.Follows number history) (happenings : List Happening)
    (chip : (next.bench.chips number).Follows (happenings ++ history))
    (unserviced : ∀ happening ∈ happenings, happening.service? = none)
    (services : next.journal.filterMap (Entry.service? number) =
      course.journal.filterMap (Entry.service? number)) :
    next.Follows number (happenings ++ history) := by
  refine ⟨chip, ?_, ?_⟩
  · clear chip
    induction happenings with
    | nil => exact h.blamed
    | cons happening later ih =>
        refine (ih fun other member => unserviced other (List.mem_cons_of_mem _ member)).cons ?_
        rintro cause made rfl
        cases unserviced _ List.mem_cons_self
  · rw [List.filterMap_append, List.filterMap_eq_nil_iff.mpr unserviced, List.nil_append,
      h.services, services]

theorem dispatch_other (h : course.Follows number history) {event : Event}
    (other : (course.dispatcher.handler? event.slot).bind Handler.owner? ≠ some number) :
    (course.dispatch event).Follows number
      ((course.happening? number event).toList ++ history) := by
  have nothing : course.happening? number event = none := by
    rw [happening?]
    split
    · next chip report held =>
        rw [held] at other
        exact if_neg fun same => other (congrArg some same)
    · next chip held =>
        rw [held] at other
        exact if_neg fun same => other (congrArg some same)
    · rfl
  rw [nothing]
  refine h.keep (Dispatcher.chips_dispatch_of_other other course.bench) ?_
  refine List.filterMap_cons_none (Entry.service?_of_other fun own => other ?_)
  obtain ⟨handler, held, ofChip⟩ := Option.bind_eq_some_iff.mp own
  rw [show course.dispatcher.handler? event.slot = some handler from held,
    handler.eq_chipLine ofChip]
  rfl

theorem dispatch_timer (h : course.Follows number history) {event : Event} {report : Report}
    (held : course.dispatcher.handler? event.slot = some (.chipTimer number report)) :
    (course.dispatch event).Follows number (.expired :: history) := by
  have chip : (course.dispatch event).bench.chips number = (course.bench.chips number).standby := by
    change (course.dispatcher.dispatch event course.bench).bench.chips number = _
    rw [Dispatcher.chips_dispatch_of_handler held, Handler.start, Bench.chips_setChip_self]
  refine h.happen [.expired] ?_ ?_ ?_
  · rw [chip]
    exact h.chip.standby
  · intro happening member
    rw [List.mem_singleton.mp member]
    rfl
  · refine List.filterMap_cons_none (Entry.service?_of_other ?_)
    change (course.dispatcher.handler? event.slot).bind Handler.chip? ≠ some number
    simp [held, Handler.chip?]

theorem dispatch_line (h : course.Follows number history) {event : Event}
    (held : course.dispatcher.handler? event.slot = some (.chipLine number)) :
    (course.dispatch event).Follows number
      (((course.bench.pending number).head?.map fun cause =>
        .serviced cause (course.dispatcher.observe event course.bench)).toList ++ history) := by
  cases oldest : course.bench.pending number with
  | nil =>
      obtain ⟨silent, chips⟩ := Dispatcher.reports_of_spurious held oldest
      exact h.keep (congrArg (fun chips => chips number) chips)
        (List.filterMap_cons_none (Entry.service?_of_silent silent number))
  | cons cause rest =>
      let made := course.dispatcher.observe event course.bench
      have chip : (course.dispatch event).bench.chips number =
          { course.bench.chips number with
            pending := rest, mode := (course.bench.chips number).modeAfter cause } := by
        change (course.dispatcher.dispatch event course.bench).bench.chips number = _
        rw [Dispatcher.chips_dispatch_of_handler held, Handler.start_chipLine oldest,
          Bench.chips_setChip_self]
      have reports : made.reports = [cause.report (Happening.modeAfter history)] := by
        change course.dispatcher.reports event course.bench = _
        rw [Dispatcher.reports_of_some held, Handler.reports, Handler.start_chipLine oldest,
          h.chip.mode]
        rfl
      have result : made.result = .ok (cause.report (Happening.modeAfter history)).outcome := by
        change (course.dispatcher.dispatch event course.bench).result = _
        rw [Dispatcher.result_of_some held, show course.dispatcher.reports _ _ = _ from reports]
        rfl
      refine ⟨?_, h.blamed.cons ?_, ?_⟩
      · rw [chip]
        exact h.chip.serviced cause rest made
      · rintro _ _ ⟨⟩
        exact ⟨reports, result⟩
      · have own := (Dispatcher.servicedIn_observe held oldest).1
        exact (congrArg (List.cons made) h.services).trans (List.filterMap_cons_some own).symm

theorem dispatch (h : course.Follows number history) (event : Event) :
    (course.dispatch event).Follows number
      ((course.happening? number event).toList ++ history) := by
  by_cases own : (course.dispatcher.handler? event.slot).bind Handler.owner? = some number
  · obtain ⟨handler, held, owner⟩ := Option.bind_eq_some_iff.mp own
    cases handler with
    | routine behaviour runs => cases owner
    | chipLine chip =>
        obtain rfl := Option.some.inj owner
        have oldest : course.happening? chip event =
            (course.bench.pending chip).head?.map fun cause =>
              .serviced cause (course.dispatcher.observe event course.bench) := by
          rw [happening?, held]
          exact if_pos rfl
        rw [oldest]
        exact h.dispatch_line held
    | chipTimer chip report =>
        obtain rfl := Option.some.inj owner
        have expired : course.happening? chip event = some .expired := by
          rw [happening?, held]
          exact if_pos rfl
        rw [expired]
        exact h.dispatch_timer held
  · exact h.dispatch_other own

theorem drainUpTo (h : course.Follows number history) (announce : Dispatcher.Announce)
    (limit : Nat) :
    (Course.drainUpTo announce limit course).Follows number
      (course.drainHappenings number announce limit ++ history) := by
  induction limit generalizing course history with
  | zero => exact h
  | succ limit ih =>
      have chips := course.bench.chips_tryNext
      rw [Course.drainUpTo, drainHappenings]
      generalize course.bench.tryNext = next at chips
      obtain ⟨found, bench⟩ := next
      have taken : (course.arrange fun _ => bench).Follows number history :=
        h.keep (congrArg (fun chips => chips number) chips) rfl
      cases found with
      | none => exact taken
      | some event =>
          have dispatched := taken.dispatch event
          rw [List.append_assoc]
          exact ih (dispatched.keep rfl rfl)

theorem command (h : course.Follows number history) (radio : SimulatedRadio) (request : Command) :
    (course.arrange fun bench => (radio.perform request bench).2).Follows number
      ((Doing.command radio request : Doing number).happened course ++ history) := by
  rw [Doing.happened_command]
  rcases radio.perform_cases course.bench request with ⟨error, failed⟩ | ⟨chip, changed, done⟩
  · rw [failed, if_neg fun both => Bool.false_ne_true both.2]
    exact h.keep (congrArg (fun run => run.2.chips number) failed) rfl
  · have left : (course.arrange fun bench => (radio.perform request bench).2).bench =
        course.bench.setChip radio.chip chip := congrArg Prod.snd done
    by_cases own : radio.chip = number
    · rw [done, if_pos ⟨own, rfl⟩]
      refine h.happen _ ?_ ?_ rfl
      · subst own
        rw [left, Bench.chips_setChip_self]
        exact h.chip.command changed
      · cases request <;> simp [Command.happening?, Happening.service?]
    · rw [if_neg fun both => own both.1]
      refine h.keep ?_ rfl
      rw [left, Bench.chips_setChip_of_ne _ _ (Ne.symm own)]

theorem install (h : course.Follows number history) (radio : SimulatedRadio)
    (board : SimulatedBoard) :
    (course.install radio board).Follows number
      ((Doing.install radio board : Doing number).happened course ++ history) := by
  rw [Doing.happened_install]
  cases answers : radio.responsive with
  | false =>
      obtain ⟨failed, chips⟩ :=
        radio.install_of_unresponsive course.dispatcher board course.bench answers
      rw [failed, if_neg fun both => Bool.false_ne_true both.2]
      exact h.keep (congrArg (fun chips => chips number) chips) rfl
  | true =>
      obtain ⟨succeeded, chip, others⟩ :=
        radio.install_of_responsive course.dispatcher board course.bench answers
      by_cases own : radio.chip = number
      · rw [succeeded, if_pos ⟨own, rfl⟩]
        refine h.happen _ ?_ ?_ rfl
        · subst own
          change ((course.dispatcher.install radio board course.bench).bench.chips _).Follows _
          rw [chip]
          exact h.chip.fallAsleep
        · intro happening member
          rw [List.mem_singleton.mp member]
          rfl
      · rw [if_neg fun both => own both.1]
        exact h.keep (others number (Ne.symm own)) rfl

theorem latch (h : course.Follows number history) (chip : Nat) (cause : Cause) :
    (course.arrange fun bench =>
      bench.setChip chip ((bench.chips chip).latch cause)).Follows number history := by
  refine ⟨?_, h.blamed, h.services⟩
  change ((course.bench.setChip chip _).chips number).Follows history
  by_cases own : number = chip
  · subst own
    rw [Bench.chips_setChip_self]
    exact h.chip.latch cause
  · rw [Bench.chips_setChip_of_ne _ _ own]
    exact h.chip

theorem doing (h : course.Follows number history) {doing : Doing number}
    (kept : doing.KeepsChip) :
    (course.perform doing.operation).Follows number (doing.happened course ++ history) := by
  cases doing with
  | latch chip cause => exact h.latch chip cause
  | command radio request => exact h.command radio request
  | install radio board => exact h.install radio board
  | other operation spares =>
      cases operation with
      | register | setBuffer | takeBuffer | resetCounters => exact h.keep rfl rfl
      | @install δ β ε _ driver board =>
          have : RadioInterrupt.KeepsChip number δ := kept
          exact h.keep (course.dispatcher.chips_install driver board course.bench) rfl
      | dispatch event => exact h.dispatch event
      | drain announce =>
          obtain ⟨messages, same⟩ := exists_drain_eq announce course
          change (course.drain announce).Follows number _
          rw [same]
          exact (h.drainUpTo announce Dispatcher.drainLimit).keep rfl rfl
      | arrange change => exact h.keep (kept course.bench) rfl

theorem run (h : course.Follows number history) {doings : List (Doing number)}
    (kept : ∀ doing ∈ doings, doing.KeepsChip) :
    (course.run (doings.map Doing.operation)).Follows number
      (course.history doings ++ history) := by
  induction doings generalizing course history with
  | nil => exact h
  | cons doing doings ih =>
      have first := h.doing (kept doing List.mem_cons_self)
      have later := ih first fun other member => kept other (List.mem_cons_of_mem _ member)
      rw [Course.history, List.append_assoc]
      exact later

end Follows

/-- With a chip that was new, and is left to its driver, its handlers and latches, the history
decides the mode of the chip, whatever else is done, and what is done next adds to it.  A timeout
that is serviced, with any causes latched before and after it, is one of sending when the latest
happening that sets the mode was that the chip sent, and one of receiving otherwise.  All services
of the journal are in the history.  A payload is sent unless it is too long; a driver that answers
is installed with its handlers and leaves its chip asleep, and one that does not answer leaves it as
it is. -/
theorem timeouts_blame_operation_in_flight (number : Nat) (region : Bytes) (bench : Bench)
    (fresh : bench.chips number = {}) (doings : List (Doing number))
    (kept : ∀ doing ∈ doings, doing.KeepsChip) :
    let course := (start region bench).run (doings.map Doing.operation)
    let history := (start region bench).history doings
    let chip := course.bench.chips number
    chip.mode = Happening.modeAfter history ∧
    chip.receiveConfig = Happening.receiveConfig history ∧
    (∀ doing : Doing number, doing.KeepsChip →
      ((course.perform doing.operation).bench.chips number).mode =
        Happening.modeAfter (doing.happened course ++ history)) ∧
    history.filterMap Happening.service? = course.journal.filterMap (Entry.service? number) ∧
    (∀ later made earlier, history = later ++ .serviced .timeout made :: earlier →
      (Happening.latest earlier = some .sent →
        made.reports = [.txTimeout] ∧ made.result = .ok .txTimeout) ∧
      (Happening.latest earlier ≠ some .sent →
        made.reports = [.rxTimeout] ∧ made.result = .ok .rxTimeout)) ∧
    (∀ (radio : SimulatedRadio) payload,
      (radio.perform (.send payload) course.bench).1 = .ok () ↔ payload.length ≤ maxPayload) ∧
    ∀ (radio : SimulatedRadio) board, radio.chip = number →
      let run := course.dispatcher.install radio board course.bench
      (radio.responsive = true → run.result = .ok () ∧ (run.bench.chips number).mode = .sleep ∧
        run.dispatcher.handler? (.line 0) = some (.chipLine number) ∧
        (board.timers = true →
          run.dispatcher.handler? (.timer .timer1) = some (.chipTimer number .txTimeout) ∧
          run.dispatcher.handler? (.timer .timer2) = some (.chipTimer number .rxTimeout))) ∧
      (radio.responsive = false →
        run.result = .error .noResponse ∧ run.bench.chips number = chip) := by
  intro course history chip
  have start : (start region bench).Follows number [] := by
    refine ⟨?_, ?_, rfl⟩
    · change (bench.chips number).Follows []
      rw [fresh]
      exact ⟨rfl, rfl⟩
    · intro later cause made earlier split
      cases later <;> cases split
  have h : course.Follows number history := by
    have whole := start.run kept
    rwa [List.append_nil] at whole
  refine ⟨h.chip.mode, h.chip.config, fun doing keeps => (h.doing keeps).chip.mode, h.services, ?_,
    ?_, ?_⟩
  · intro later made earlier split
    obtain ⟨reports, result⟩ := h.blamed later .timeout made earlier split
    rw [ne_eq, ← Happening.modeAfter_eq_transmit_iff]
    refine ⟨fun sending => ?_, fun otherwise => ?_⟩
    · rw [reports, result, Cause.report, if_pos sending]
      exact ⟨rfl, rfl⟩
    · rw [reports, result, Cause.report, if_neg otherwise]
      exact ⟨rfl, rfl⟩
  · exact fun radio payload => radio.perform_send_eq_ok_iff course.bench payload
  · rintro radio board rfl run
    constructor
    · intro answers
      obtain ⟨succeeded, asleep, -⟩ :=
        radio.install_of_responsive course.dispatcher board course.bench answers
      refine ⟨succeeded, ?_, radio.handler?_install course.dispatcher board course.bench succeeded,
        ?_⟩
      · rw [asleep]
        rfl
      · intro timers
        rw [Dispatcher.handler?_install, Dispatcher.handler?_install, succeeded]
        change Request.leave (radio.requests board) _ = _ ∧
          Request.leave (radio.requests board) _ = _
        rw [SimulatedRadio.requests, if_pos answers, if_pos timers]
        exact ⟨rfl, rfl⟩
    · intro silent
      obtain ⟨failed, chips⟩ :=
        radio.install_of_unresponsive course.dispatcher board course.bench silent
      exact ⟨failed, congrArg (fun chips => chips radio.chip) chips⟩

/-- Two timeouts are latched after one payload was sent.  The first is one of sending; it ends the
transmission, so that the second is not. -/
theorem timeouts_blame_operation_in_flight_two :
    let radio : SimulatedRadio := { chip := 0 }
    let doings : List (Doing 0) := [.install radio {}, .command radio (.send [1]),
      .command radio (.setPublicNetwork true), .latch 0 .timeout, .latch 0 .timeout,
      .other (.dispatch (.line 0)) trivial, .other (.dispatch (.line 1)) trivial]
    let course := (start [] {}).run (doings.map Doing.operation)
    (course.journal.filterMap (Entry.service? 0)).map Dispatched.result =
        [.ok .rxTimeout, .ok .txTimeout] ∧
      (course.bench.chips 0).mode = .standby := by
  intro radio doings course
  have kept : ∀ doing ∈ doings, doing.KeepsChip := by
    simp only [doings, List.forall_mem_cons]
    exact ⟨trivial, trivial, trivial, trivial, trivial, trivial, trivial, List.forall_mem_nil _⟩
  obtain ⟨mode, -, -, services, timeouts, -⟩ :=
    timeouts_blame_operation_in_flight 0 [] {} rfl doings kept
  obtain ⟨first, second, history⟩ : ∃ first second, (start [] {}).history doings =
      [.serviced .timeout second, .serviced .timeout first, .sent, .slept] := by
    refine ⟨?first, ?second, ?same⟩
    case same => rfl
  obtain ⟨-, sending⟩ :=
    (timeouts [.serviced .timeout second] first [.sent, .slept] history).1 rfl
  obtain ⟨-, standing⟩ :=
    (timeouts [] second [.serviced .timeout first, .sent, .slept] history).2 nofun
  constructor
  · rw [← services, history]
    change [second.result, first.result] = _
    rw [sending, standing]
  · rw [mode, history]
    rfl

end Course

end RadioInterrupt
