import RadioInterrupt.Proofs.OperationInFlight
import RadioInterrupt.Proofs.Usage

/-!
# What only commands write on a chip

A register of a simulated chip is a part of it that the commands of its driver write, and that
latches, handlers and another start of the chip leave alone.  In a usage of the chip its content is
the old one after the commands of the calls that succeeded, in their order (`Usage.Agrees.run`).
-/

namespace RadioInterrupt

def Called.command? {ε : Type} (called : Called ε) : Option Command :=
  called.result.toOption.bind fun _ =>
    called.driverCalls.findSome? fun
      | .perform command => some command
      | .bringUp _ => none

theorem Transceiver.command?_called {δ β ε : Type} [Driver δ β ε] (radio : Transceiver δ)
    (call : Call) (bench : Bench) :
    (radio.called call bench).command? =
      (radio.call call bench).result.toOption.bind fun _ => radio.command? call := by
  rw [Called.command?, Transceiver.called, driverCalls_eq]
  cases radio.command? call <;> rfl

namespace Command

def payload? : Command → Option Bytes
  | .send payload => some payload
  | _ => none

def transmitConfig? : Command → Option TransmitConfig
  | .configureTransmit config => some config
  | _ => none

def receiveConfig? : Command → Option ReceiveConfig
  | .configureReceive config => some config
  | _ => none

end Command

theorem SimulatedRadio.perform_eq (radio : SimulatedRadio) (request : Command) (bench : Bench) :
    Driver.perform radio request bench =
      ((radio.perform request bench).1, radio, (radio.perform request bench).2) := rfl

theorem SimulatedRadio.driver_install (radio : SimulatedRadio) (dispatcher : Dispatcher)
    (board : SimulatedBoard) (bench : Bench) :
    (dispatcher.install radio board bench).driver = radio := by
  simp only [Dispatcher.install_eq]
  cases (dispatcher.bringingUp radio board bench).1 with
  | error error => rfl
  | ok done => cases (dispatcher.fallingAsleep radio board bench).1 <;> rfl

theorem SimulatedRadio.of_command {chip next : Chip} {request : Command}
    (succeeded : command chip request = .ok next) :
    next.sent = chip.sent ++ request.payload?.toList ∧
      next.transmitConfig = request.transmitConfig?.or chip.transmitConfig ∧
      next.receiveConfig = request.receiveConfig?.or chip.receiveConfig := by
  cases request with
  | send payload =>
      simp only [command, Chip.send] at succeeded
      split at succeeded
      · contradiction
      · cases succeeded
        exact ⟨rfl, rfl, rfl⟩
  | _ =>
      cases succeeded
      exact ⟨(List.append_nil _).symm, rfl, rfl⟩

namespace Chip

structure Register (α : Type) where
  read : Chip → α
  after : Command → α → α
  written : ∀ {chip request next}, SimulatedRadio.command chip request = .ok next →
    read next = after request (read chip)
  lasting : ∀ (chip : Chip) pending mode bringUps sleeps,
    read { chip with pending, mode, bringUps, sleeps } = read chip

namespace Register

def frames : Register (List Bytes) where
  read := sent
  after request earlier := earlier ++ request.payload?.toList
  written succeeded := (SimulatedRadio.of_command succeeded).1
  lasting _ _ _ _ _ := rfl

def transmission : Register (Option TransmitConfig) where
  read := transmitConfig
  after request earlier := request.transmitConfig?.or earlier
  written succeeded := (SimulatedRadio.of_command succeeded).2.1
  lasting _ _ _ _ _ := rfl

def reception : Register (Option ReceiveConfig) where
  read := receiveConfig
  after request earlier := request.receiveConfig?.or earlier
  written succeeded := (SimulatedRadio.of_command succeeded).2.2
  lasting _ _ _ _ _ := rfl

variable {α : Type} (register : Register α)

def held (bench : Bench) (number : Nat) : α :=
  register.read (bench.chips number)

theorem held_say (bench : Bench) (messages : List Message) (number : Nat) :
    register.held (bench.say messages) number = register.held bench number := rfl

theorem held_setChip (bench : Bench) (changed : Nat) {chip : Chip}
    (h : register.read chip = register.held bench changed) (number : Nat) :
    register.held (bench.setChip changed chip) number = register.held bench number := by
  by_cases same : number = changed
  · simp [held, same, h]
  · simp [held, Bench.chips_setChip_of_ne bench chip same]

theorem held_start (handler : Handler) (bench : Bench) (number : Nat) :
    register.held (handler.start bench).2 number = register.held bench number := by
  cases handler with
  | routine behaviour runs => rfl
  | chipLine chip =>
      cases pending : (bench.chips chip).pending with
      | nil => simp [Handler.start, Chip.service_of_nil pending, held_say]
      | cons cause rest =>
          rw [Handler.start_chipLine pending]
          apply register.held_setChip
          apply register.lasting
  | chipTimer chip report =>
      apply register.held_setChip
      apply register.lasting

theorem held_dispatch (dispatcher : Dispatcher) (event : Event) (bench : Bench) (number : Nat) :
    register.held (dispatcher.dispatch event bench).bench number =
      register.held bench number := by
  cases found : dispatcher.handler? event.slot with
  | none =>
      obtain ⟨message, same⟩ := Dispatcher.bench_of_none found bench
      rw [same, held_say]
  | some handler =>
      rw [held, Dispatcher.chips_dispatch_of_handler found]
      exact register.held_start handler bench number

theorem held_install (radio : SimulatedRadio) (dispatcher : Dispatcher) (board : SimulatedBoard)
    (bench : Bench) (number : Nat) :
    register.held (dispatcher.install radio board bench).bench number =
      register.held bench number := by
  apply dispatcher.read_install (fun bench => register.held bench number)
  · intro bench messages
    rfl
  · intro answers earlier
    change register.held (radio.bringUp board earlier).2 number = _
    unfold SimulatedRadio.bringUp
    split
    · apply register.held_setChip
      apply register.lasting
    · rfl
  · intro radio earlier
    apply register.held_setChip
    apply register.lasting

/-! ## Calls -/

def store {ε : Type} (called : Called ε) (earlier : α) : α :=
  called.command?.elim earlier fun command => register.after command earlier

theorem held_call (radio : Transceiver SimulatedRadio) (call : Call) (bench : Bench) :
    let run := radio.call call bench
    run.radio.driver = radio.driver ∧
      register.held run.bench radio.driver.chip =
        register.store (radio.called call bench) (register.held bench radio.driver.chip) := by
  rw [store, Transceiver.command?_called]
  cases planned : radio.command? call with
  | some command =>
      have told := radio.driver.perform_eq command (bench.say (radio.remarks call))
      rcases radio.driver.perform_cases (bench.say (radio.remarks call)) command with
        ⟨error, refused⟩ | ⟨chip, succeeded, performed⟩
      · rw [refused] at told
        simp only [Transceiver.call_of_command planned, told]
        exact ⟨trivial, rfl⟩
      · rw [performed] at told
        simp only [Transceiver.call_of_command planned, told]
        refine ⟨trivial, ?_⟩
        rw [held, Bench.chips_setChip_self]
        exact register.written succeeded
  | none =>
      simp only [Option.bind_fun_none, Option.elim_none]
      cases kind : call.isDispatch with
      | true =>
          obtain ⟨event, rfl⟩ := Transceiver.exists_event_of_isDispatch kind
          simp only [Transceiver.call_handle, Transceiver.handle_eq, CallRun.map, held_dispatch]
          exact ⟨trivial, trivial⟩
      | false =>
          simp only [Transceiver.call_of_quiet planned kind, Transceiver.driver_prepared]
          exact ⟨trivial, trivial⟩

end Register

end Chip

/-! ## Usages -/

namespace Usage

variable {α : Type} {register : Chip.Register α} {number : Nat} {before : α}

/-- What the calls of the journal have made of what was held before. -/
def stored {δ ε : Type} (usage : Usage δ ε) (register : Chip.Register α) (before : α) : α :=
  usage.journal.foldr register.store before

/-- What happens between two calls leaves the register as it is, and the driver its chip. -/
def Step.Keeps (register : Chip.Register α) (number : Nat) : Step SimulatedRadio → Prop
  | .call _ => True
  | .arrange change =>
      ∀ bench, register.held (change bench) number = register.held bench number
  | .adjust change => ∀ radio, (change radio).chip = radio.chip

structure Agrees (register : Chip.Register α) (number : Nat) (before : α)
    (usage : Usage SimulatedRadio ChipError) : Prop where
  chip : usage.radio.driver.chip = number
  held : register.held usage.bench number = usage.stored register before

variable {usage : Usage SimulatedRadio ChipError}

theorem Agrees.perform (h : Agrees register number before usage) {step : Step SimulatedRadio}
    (keeps : step.Keeps register number) : Agrees register number before (usage.perform step) := by
  cases step with
  | call call =>
      obtain ⟨rfl, held⟩ := h
      obtain ⟨driver, stored⟩ := register.held_call usage.radio call usage.bench
      rw [held] at stored
      exact ⟨congrArg SimulatedRadio.chip driver, stored⟩
  | arrange change => exact ⟨h.chip, (keeps usage.bench).trans h.held⟩
  | adjust change => exact ⟨(keeps usage.radio.driver).trans h.chip, h.held⟩

theorem Agrees.run (h : Agrees register number before usage) {steps : List (Step SimulatedRadio)}
    (keeps : ∀ step ∈ steps, step.Keeps register number) :
    Agrees register number before (usage.run steps) := by
  induction steps generalizing usage with
  | nil => exact h
  | cons step steps ih =>
      obtain ⟨first, later⟩ := List.forall_mem_cons.mp keeps
      exact ih (h.perform first) later

theorem agrees_opened {driver : SimulatedRadio} {board : SimulatedBoard} {settings : Settings}
    {bench : Bench} (h : (Transceiver.start driver board settings bench).opened? = some usage) :
    Agrees register driver.chip (register.held bench driver.chip) usage := by
  obtain ⟨_, rfl⟩ := of_opened h
  refine ⟨congrArg SimulatedRadio.chip (driver.driver_install {} board bench), ?_⟩
  exact register.held_install driver {} board bench driver.chip

theorem stored_eq_or {β : Type} {register : Chip.Register (Option β)}
    {written : Command → Option β}
    (h : ∀ command earlier, register.after command earlier = (written command).or earlier)
    {δ ε : Type} (usage : Usage δ ε) (before : Option β) :
    usage.stored register before =
      (usage.journal.findSome? fun called => called.command?.bind written).or before := by
  unfold stored
  induction usage.journal with
  | nil => rfl
  | cons called earlier ih =>
      rw [List.foldr_cons, ih, List.findSome?_cons, Chip.Register.store]
      cases called.command? with
      | none => rfl
      | some command =>
          simp only [Option.elim_some, h, Option.bind_some]
          cases written command <;> rfl

end Usage

end RadioInterrupt
