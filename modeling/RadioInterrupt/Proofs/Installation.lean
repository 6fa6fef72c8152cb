import RadioInterrupt.Proofs.Stored

/-!
# Installing a driver

An installation makes two calls that can fail: the driver is brought up, and then it is put to
sleep.  The handlers are in place exactly when both succeed, and they are those of the driver alone.
`Observed` is a driver that keeps a list of the calls made to it, and observing an installation
changes nothing about it.
-/

namespace RadioInterrupt

/-! ## Watching the calls to a driver -/

inductive DriverCall where
  | bringUp (answers : List RequestAnswer)
  | perform (command : Command)
  deriving DecidableEq, Repr

structure Observed (δ : Type) where
  driver : δ
  calls : List DriverCall

instance {δ β ε : Type} [Driver δ β ε] : Driver (Observed δ) β ε where
  requests observed board := Driver.requests observed.driver board
  bringUp observed board answers bench :=
    let (result, driver, bench) := Driver.bringUp observed.driver board answers bench
    (result, ⟨driver, observed.calls ++ [.bringUp answers]⟩, bench)
  perform observed command bench :=
    let (result, driver, bench) := Driver.perform observed.driver command bench
    (result, ⟨driver, observed.calls ++ [.perform command]⟩, bench)

/-! ## The answers to the requests -/

namespace Request

def target? : Request → Option Slot
  | .line index _ => if h : index < 6 then some (.line ⟨index, h⟩) else none
  | .timer named _ => some (.timer named)
  | .table _ => none

theorem answer_of_target {request : Request} {slot : Slot} (h : request.target? = some slot)
    (held : Slot → Bool) :
    request.answer held = .stored (if held slot then .replaced else .registered) := by
  cases request with
  | line index handler =>
      by_cases inside : index < 6
      · rw [target?, dif_pos inside, Option.some.injEq] at h
        rw [answer, dif_pos inside, h]
      · rw [target?, dif_neg inside] at h
        cases h
  | timer timer handler =>
      rw [target?, Option.some.injEq] at h
      rw [answer, h]
  | table handlers => cases h

theorem leave_of_untouched {requests : List Request} {slot : Slot}
    (h : ∀ request ∈ requests, request.writes slot = []) : leave requests slot = none := by
  have nothing : requests.flatMap (·.writes slot) = [] := List.flatMap_eq_nil_iff.mpr h
  rw [leave, nothing]
  rfl

end Request

theorem Registry.answer_performAll_empty (requests : List Request) (place : Nat) :
    (empty.performAll requests).1[place]? =
      requests[place]?.map (·.answer fun slot =>
        (Request.leave (requests.take place) slot).isSome) := by
  rw [answer_performAll]
  simp only [handler?_performAll_empty]

theorem Registry.first_answer {requests : List Request} {place : Nat} {request : Request}
    {slot : Slot} (hrequest : requests[place]? = some request)
    (htarget : request.target? = some slot)
    (first : ∀ earlier ∈ requests.take place, earlier.writes slot = []) :
    (empty.performAll requests).1[place]? = some (.stored .registered) := by
  rw [answer_performAll_empty, hrequest, Option.map_some, Request.answer_of_target htarget,
    Request.leave_of_untouched first]
  rfl

/-! ## The three ends of an installation -/

namespace Dispatcher

variable {δ β ε : Type} [Driver δ β ε]

def bringingUp (dispatcher : Dispatcher) (driver : δ) (board : β) (bench : Bench) :
    Except ε Unit × δ × Bench :=
  let performed := Registry.empty.performAll (Driver.requests driver board)
  let released := if dispatcher.inbox.buffer.isSome then [.bufferReleased] else []
  Driver.bringUp driver board performed.1 ((bench.say released).say performed.2.2)

def fallingAsleep (dispatcher : Dispatcher) (driver : δ) (board : β) (bench : Bench) :
    Except ε Unit × δ × Bench :=
  let up := dispatcher.bringingUp driver board bench
  Driver.perform up.2.1 .sleep up.2.2

theorem install_eq (dispatcher : Dispatcher) (driver : δ) (board : β) (bench : Bench) :
    dispatcher.install driver board bench =
      let up := dispatcher.bringingUp driver board bench
      let slept := dispatcher.fallingAsleep driver board bench
      let registry := (Registry.empty.performAll (Driver.requests driver board)).2.1
      match up.1, slept.1 with
      | .error error, _ =>
          ⟨.error error, dispatcher.cleared, up.2.1, up.2.2.say [.bringUpFailed]⟩
      | .ok _, .error error =>
          ⟨.error error, dispatcher.cleared, slept.2.1, slept.2.2.say [.sleepFailed]⟩
      | .ok _, .ok _ =>
          ⟨.ok (), { dispatcher.cleared with toRegistry := registry }, slept.2.1,
            slept.2.2.say (installed registry)⟩ := by
  rcases hup : dispatcher.bringingUp driver board bench with ⟨error | done, raised, left⟩
  · have up := hup
    rw [bringingUp] at up
    simp only [install, up]
  · have up := hup
    rw [bringingUp] at up
    rcases hslept : Driver.perform raised .sleep left with ⟨error | done, slept, last⟩
    · simp only [install, fallingAsleep, up, hup, hslept]
    · simp only [install, fallingAsleep, up, hup, hslept]

theorem result_install (dispatcher : Dispatcher) (driver : δ) (board : β) (bench : Bench) :
    (dispatcher.install driver board bench).result =
      (dispatcher.bringingUp driver board bench).1.bind fun _ =>
        (dispatcher.fallingAsleep driver board bench).1 := by
  simp only [install_eq]
  cases (dispatcher.bringingUp driver board bench).1 with
  | error error => rfl
  | ok done => cases (dispatcher.fallingAsleep driver board bench).1 <;> rfl

theorem result_install_eq_ok_iff {dispatcher : Dispatcher} {driver : δ} {board : β}
    {bench : Bench} :
    (dispatcher.install driver board bench).result = .ok () ↔
      (dispatcher.bringingUp driver board bench).1 = .ok () ∧
        (dispatcher.fallingAsleep driver board bench).1 = .ok () := by
  rw [result_install]
  cases (dispatcher.bringingUp driver board bench).1 with
  | error error => simp [Except.bind]
  | ok done => simp [Except.bind]

theorem result_install_eq_error_iff {dispatcher : Dispatcher} {driver : δ} {board : β}
    {bench : Bench} {error : ε} :
    (dispatcher.install driver board bench).result = .error error ↔
      (dispatcher.bringingUp driver board bench).1 = .error error ∨
        (dispatcher.bringingUp driver board bench).1 = .ok () ∧
          (dispatcher.fallingAsleep driver board bench).1 = .error error := by
  rw [result_install]
  cases (dispatcher.bringingUp driver board bench).1 with
  | error error => simp [Except.bind]
  | ok done => simp [Except.bind]

theorem driver_install_of_ok {dispatcher : Dispatcher} {driver : δ} {board : β} {bench : Bench}
    (h : (dispatcher.install driver board bench).result = .ok ()) :
    (dispatcher.install driver board bench).driver =
      (dispatcher.fallingAsleep driver board bench).2.1 := by
  obtain ⟨up, slept⟩ := result_install_eq_ok_iff.mp h
  simp only [install_eq, up, slept]

theorem read_install {α : Type} (read : Bench → α)
    (said : ∀ bench messages, read (bench.say messages) = read bench) (dispatcher : Dispatcher)
    (driver : δ) (board : β) (bench : Bench)
    (up : ∀ answers earlier,
      read (Driver.bringUp driver board answers earlier).2.2 = read earlier)
    (asleep : ∀ (driver : δ) earlier,
      read (Driver.perform driver .sleep earlier).2.2 = read earlier) :
    read (dispatcher.install driver board bench).bench = read bench := by
  have raised : read (dispatcher.bringingUp driver board bench).2.2 = read bench :=
    (up _ _).trans ((said _ _).trans (said _ _))
  have slept : read (dispatcher.fallingAsleep driver board bench).2.2 = read bench :=
    (asleep _ _).trans raised
  simp only [install_eq]
  cases (dispatcher.bringingUp driver board bench).1 with
  | error error => exact (said _ _).trans raised
  | ok done => cases (dispatcher.fallingAsleep driver board bench).1 <;>
      exact (said _ _).trans slept

theorem install_observed (dispatcher : Dispatcher) (driver : δ) (calls : List DriverCall)
    (board : β) (bench : Bench) :
    let answers := (Registry.empty.performAll (Driver.requests driver board)).1
    let slept := if (dispatcher.bringingUp driver board bench).1.isOk then
      [.perform .sleep] else []
    let run := dispatcher.install driver board bench
    dispatcher.install (Observed.mk driver calls) board bench =
      ⟨run.result, run.dispatcher, ⟨run.driver, calls ++ .bringUp answers :: slept⟩,
        run.bench⟩ := by
  intro answers slept run
  have up : dispatcher.bringingUp (Observed.mk driver calls) board bench =
      let up := dispatcher.bringingUp driver board bench
      (up.1, ⟨up.2.1, calls ++ [.bringUp answers]⟩, up.2.2) := rfl
  have asleep : dispatcher.fallingAsleep (Observed.mk driver calls) board bench =
      let slept := dispatcher.fallingAsleep driver board bench
      (slept.1, ⟨slept.2.1, calls ++ [.bringUp answers] ++ [.perform .sleep]⟩, slept.2.2) := rfl
  rw [install_eq, up, asleep]
  simp only [run, slept, install_eq]
  cases (dispatcher.bringingUp driver board bench).1 with
  | error error => rfl
  | ok done =>
      rw [List.append_assoc]
      cases (dispatcher.fallingAsleep driver board bench).1 <;> rfl

theorem isConfigured_install (dispatcher : Dispatcher) (driver : δ) (board : β) (bench : Bench)
    (event : Event) :
    (dispatcher.install driver board bench).dispatcher.isConfigured event =
      ((dispatcher.install driver board bench).result.isOk &&
        (Request.leave (Driver.requests driver board) event.slot).isSome) := by
  rw [isConfigured, handler?_install]
  cases (dispatcher.install driver board bench).result.isOk <;> rfl

/-- An installation succeeds when the driver was brought up and went to sleep, and then the tables
are what its requests make of empty ones.  When either call fails its error is returned and no event
has a handler.  The driver is told to sleep exactly when it was brought up.  No buffer is registered
afterwards, and what was recorded of earlier dispatches stays. -/
theorem install_all_or_nothing (dispatcher : Dispatcher) (driver : δ) (board : β)
    (bench : Bench) :
    let requests := Driver.requests driver board
    let performed := Registry.empty.performAll requests
    let up := dispatcher.bringingUp driver board bench
    let slept := dispatcher.fallingAsleep driver board bench
    let run := dispatcher.install driver board bench
    let observed := dispatcher.install (Observed.mk driver []) board bench
    (up.1 = .ok () → slept.1 = .ok () →
      run.result = .ok () ∧ run.dispatcher.toRegistry = performed.2.1) ∧
    (∀ error, up.1 = .error error ∨ up.1 = .ok () ∧ slept.1 = .error error →
      run.result = .error error ∧ ∀ event, run.dispatcher.isConfigured event = false) ∧
    (∀ slot, performed.2.1.handler? slot = Request.leave requests slot) ∧
    (∀ place : Nat, performed.1[place]? = requests[place]?.map (·.answer fun slot =>
      (Request.leave (requests.take place) slot).isSome)) ∧
    (∀ (place : Nat) request slot, requests[place]? = some request →
      request.target? = some slot →
      (∀ earlier ∈ requests.take place, earlier.writes slot = []) →
      performed.1[place]? = some (.stored .registered)) ∧
    observed.driver.calls =
      .bringUp performed.1 :: (if up.1.isOk then [.perform .sleep] else []) ∧
    (observed.result = run.result ∧ observed.dispatcher = run.dispatcher ∧
      observed.driver.driver = run.driver ∧ observed.bench = run.bench) ∧
    run.dispatcher.inbox.registered = none ∧
    run.dispatcher.inbox.region = dispatcher.inbox.region ∧
    run.dispatcher.outcome = dispatcher.outcome ∧
    run.dispatcher.info = dispatcher.info ∧
    run.dispatcher.counters = dispatcher.counters := by
  intro requests performed up slept run observed
  have result : run.result = up.1.bind fun _ => slept.1 := dispatcher.result_install _ _ _
  have left : run.dispatcher = { dispatcher.cleared with
      toRegistry := if run.result.isOk then performed.2.1 else .empty } :=
    dispatcher.dispatcher_install _ _ _
  have watched := dispatcher.install_observed driver [] board bench
  refine ⟨?_, ?_, Registry.handler?_performAll_empty requests,
    Registry.answer_performAll_empty requests, ?_, ?_, ?_, ?_⟩
  · intro hup hslept
    have succeeded : run.result = .ok () := by
      rw [result, hup]
      exact hslept
    rw [left, succeeded]
    exact ⟨rfl, rfl⟩
  · intro error failure
    have failed : run.result = .error error := by
      rw [result]
      rcases failure with hup | ⟨hup, hslept⟩
      · rw [hup]
        rfl
      · rw [hup]
        exact hslept
    refine ⟨failed, fun event => ?_⟩
    rw [dispatcher.isConfigured_install, show (dispatcher.install _ _ _).result = _ from failed]
    rfl
  · intro place request slot hrequest htarget first
    exact Registry.first_answer hrequest htarget first
  · rw [show observed = _ from watched]
    rfl
  · rw [show observed = _ from watched]
    exact ⟨rfl, rfl, rfl, rfl⟩
  · rw [left]
    exact ⟨rfl, rfl, rfl, rfl, rfl⟩

/-- A driver that stores slot 2 twice is installed over a handler at slot 2, and then fails to go to
sleep. -/
theorem install_all_or_nothing_twice :
    let probe : Script := { id := "probe", runs := [] }
    let requests : List Request :=
      [.line 2 probe.handler, .line 9 probe.handler, .line 2 probe.handler]
    let sound : ScriptedDriver := { requests }
    let stuck := sound.setFailure "sleep" (some "stuck")
    let before := (({} : Dispatcher).register (.line 2 probe.handler) {}).2.1
    let run := before.install sound () {}
    let rerun := run.dispatcher.install stuck () run.bench
    run.result = .ok () ∧
      (Registry.empty.performAll requests).1[0]? = some (.stored .registered) ∧
      rerun.result = .error "stuck" ∧ rerun.dispatcher.isConfigured (.line 2) = false := by
  intro probe requests sound stuck before run rerun
  have first := before.install_all_or_nothing sound () {}
  have second := run.dispatcher.install_all_or_nothing stuck () run.bench
  have failed := second.2.1 "stuck" (.inr ⟨rfl, rfl⟩)
  refine ⟨(first.1 rfl rfl).1, ?_, failed.1, failed.2 (.line 2)⟩
  exact first.2.2.2.2.1 0 (.line 2 probe.handler) (.line 2) rfl rfl nofun

end Dispatcher

end RadioInterrupt
