import RadioInterrupt.Proofs.Calls
import RadioInterrupt.Script
import RadioInterrupt.SimulatedRadio

/-!
# Setting up a transceiver

The settings are checked first, and a driver is not called for settings that have a fault.  With
valid settings the driver is installed on a new dispatcher: it is brought up, and put to sleep if
that succeeds.  A transceiver comes out when everything has succeeded
(`Transceiver.result_start_eq_ok_iff`).
-/

namespace RadioInterrupt

/-! ## The faults of settings -/

namespace Settings

def faults (settings : Settings) : List SettingsError :=
  (if 6 ≤ settings.preambleLength then [] else [.shortPreamble]) ++
  (if 0 < settings.symbolTimeout ∨ settings.continuousReceive = true then []
    else [.noSymbolTimeout]) ++
  (if 0 < settings.transmitTimeout then [] else [.noTransmitTimeout]) ++
  (if settings.hopping ≠ .every 0 then [] else [.noHopPeriod])

theorem valid_iff {settings : Settings} :
    settings.Valid ↔
      6 ≤ settings.preambleLength ∧
        (0 < settings.symbolTimeout ∨ settings.continuousReceive = true) ∧
        0 < settings.transmitTimeout ∧ settings.hopping ≠ .every 0 := by
  rw [UInt16.pos_iff_ne_zero, UInt32.pos_iff_ne_zero]
  constructor
  · intro valid
    exact ⟨valid.preamble, valid.symbolTimeout, valid.transmitTimeout, valid.hopPeriod⟩
  · rintro ⟨preamble, symbols, timeout, hop⟩
    exact ⟨preamble, symbols, timeout, hop⟩

theorem validate_eq_head? (settings : Settings) :
    settings.validate = settings.faults.head?.elim (.ok ()) .error := by
  unfold validate
  -- In the case of each rule the ones before it are obeyed, so that its fault is the head.
  split
  · next short => simp [faults, UInt16.not_le.mpr short]
  next long =>
  have preamble : 6 ≤ settings.preambleLength := UInt16.not_lt.mp long
  split
  · next endless => simp [faults, preamble, endless]
  next limited =>
  have symbols : 0 < settings.symbolTimeout ∨ settings.continuousReceive = true := by
    rw [UInt16.pos_iff_ne_zero]
    by_cases zero : settings.symbolTimeout = 0
    · exact .inr (by simpa [zero] using limited)
    · exact .inl zero
  split
  · next zero => simp [faults, preamble, symbols, zero]
  next timed =>
  have timeout : 0 < settings.transmitTimeout := UInt32.pos_iff_ne_zero.mpr timed
  split
  · next zero => simp [faults, preamble, symbols, timeout, zero]
  · next hop => simp [faults, preamble, symbols, timeout, hop]

theorem validate_of_faults {settings : Settings} {fault : SettingsError}
    {others : List SettingsError} (h : settings.faults = fault :: others) :
    settings.validate = .error fault := by
  rw [validate_eq_head?, h]
  rfl

theorem valid_of_faults {settings : Settings} (h : settings.faults = []) : settings.Valid := by
  rw [← validate_eq_ok_iff, validate_eq_head?, h]
  rfl

end Settings

/-! ## Ends of a start -/

namespace Transceiver

variable {δ β ε : Type} [Driver δ β ε] {settings : Settings} {driver : δ} {board : β}
  {bench : Bench}

theorem start_of_fault {fault : SettingsError} (h : settings.validate = .error fault) :
    start driver board settings bench = ⟨.error (.settings fault), driver, bench⟩ := by
  simp only [start, h]

theorem start_of_valid (valid : settings.Valid) :
    start driver board settings bench =
      let run := Dispatcher.install {} driver board bench
      ⟨(run.result.mapError .driver).map fun _ =>
          { driver := run.driver, dispatcher := run.dispatcher, settings },
        run.driver, run.bench⟩ := by
  simp only [start, Settings.validate_eq_ok_iff.mpr valid]
  cases (Dispatcher.install {} driver board bench).result <;> rfl

theorem result_start_eq_ok_iff {radio : Transceiver δ} :
    (start driver board settings bench).result = .ok radio ↔
      let run := Dispatcher.install {} driver board bench
      settings.Valid ∧ run.result = .ok () ∧
        radio = { driver := run.driver, dispatcher := run.dispatcher, settings } := by
  cases checked : settings.validate with
  | error fault =>
      have invalid : ¬ settings.Valid := by simp [← Settings.validate_eq_ok_iff, checked]
      simp [start_of_fault checked, invalid]
  | ok done =>
      have valid : settings.Valid := Settings.validate_eq_ok_iff.mp checked
      rw [start_of_valid valid]
      cases installed : (Dispatcher.install {} driver board bench).result with
      | error error =>
          simp only [installed]
          change Except.error (RadioError.driver error) = .ok radio ↔ _
          simp
      | ok done =>
          simp only [installed]
          change Except.ok _ = Except.ok radio ↔ _
          simp [valid, eq_comm]

theorem start_observed (driver : δ) (board : β) (settings : Settings) (bench : Bench) :
    let observed := start (Observed.mk driver []) board settings bench
    let run := start driver board settings bench
    observed.result = run.result.map (·.observed observed.driver.calls) ∧
      observed.driver.driver = run.driver ∧ observed.bench = run.bench := by
  cases checked : settings.validate with
  | error fault =>
      rw [start_of_fault checked, start_of_fault checked]
      exact ⟨rfl, rfl, rfl⟩
  | ok done =>
      have valid : settings.Valid := Settings.validate_eq_ok_iff.mp checked
      simp only [start_of_valid valid, Dispatcher.install_observed]
      refine ⟨?_, trivial, trivial⟩
      cases (Dispatcher.install {} driver board bench).result <;> rfl

theorem calls_start_of_valid (valid : settings.Valid) :
    (start (Observed.mk driver []) board settings bench).driver.calls =
      .bringUp (Registry.empty.performAll (Driver.requests driver board)).1 ::
        if (Dispatcher.bringingUp {} driver board bench).1.isOk then [.perform .sleep] else [] := by
  rw [start_of_valid valid, Dispatcher.install_observed]
  rfl

/-- A transceiver is set up when its settings obey the rules and its driver is brought up and goes
to sleep.  The first fault of the settings is returned before the driver is called, and nothing has
changed then.  Otherwise the driver is brought up, and told to sleep exactly when that succeeded;
the error of the call that failed is returned.  A transceiver that was set up has the handlers that
its driver has requested, and has neither dispatched nor received anything. -/
theorem set_up_in_order (driver : δ) (board : β) (settings : Settings) (bench : Bench) :
    let requests := Driver.requests driver board
    let performed := Registry.empty.performAll requests
    let up := Dispatcher.bringingUp {} driver board bench
    let slept := Dispatcher.fallingAsleep {} driver board bench
    let run := start driver board settings bench
    let observed := start (Observed.mk driver []) board settings bench
    ((∃ radio, run.result = .ok radio) ↔
      (6 ≤ settings.preambleLength ∧
        (0 < settings.symbolTimeout ∨ settings.continuousReceive = true) ∧
        0 < settings.transmitTimeout ∧ settings.hopping ≠ .every 0) ∧
      up.1 = .ok () ∧ slept.1 = .ok ()) ∧
    (∀ fault others, settings.faults = fault :: others →
      run.result = .error (.settings fault) ∧ observed.driver.calls = [] ∧
        run.driver = driver ∧ run.bench = bench) ∧
    (settings.faults = [] →
      observed.driver.calls =
        .bringUp performed.1 :: (if up.1.isOk then [.perform .sleep] else []) ∧
      ∀ error, up.1 = .error error ∨ up.1 = .ok () ∧ slept.1 = .error error →
        run.result = .error (.driver error)) ∧
    (observed.result = run.result.map (·.observed observed.driver.calls) ∧
      observed.driver.driver = run.driver ∧ observed.bench = run.bench) ∧
    (∀ radio, run.result = .ok radio →
      radio.driver = slept.2.1 ∧
      radio.dispatcher.toRegistry = performed.2.1 ∧
      (∀ slot, radio.dispatcher.handler? slot = Request.leave requests slot) ∧
      radio.dispatcher.outcome = .busy ∧
      radio.frame = [] ∧
      radio.dispatcher.inbox.registered = none ∧
      radio.dispatcher.info = { length := 0, rssi := 0, snr := 0 } ∧
      radio.dispatcher.counters =
        { dispatched := 0, txDone := 0, rxDone := 0, txTimeout := 0, rxTimeout := 0, rxError := 0,
          busy := 0, unconfigured := 0, timerIgnored := 0, rxTruncated := 0, rxUnbuffered := 0 } ∧
      radio.settings = settings) := by
  intro requests performed up slept run observed
  refine ⟨?_, ?_, ?_, start_observed driver board settings bench, ?_⟩
  · simp only [run, result_start_eq_ok_iff, Settings.valid_iff,
      Dispatcher.result_install_eq_ok_iff, exists_and_left, exists_eq, and_true]
    exact Iff.rfl
  · intro fault others first
    have checked := Settings.validate_of_faults first
    simp only [run, observed, start_of_fault checked]
    exact ⟨trivial, trivial, trivial, trivial⟩
  · intro faultless
    have valid := Settings.valid_of_faults faultless
    refine ⟨calls_start_of_valid valid, fun error failed => ?_⟩
    have refused := Dispatcher.result_install_eq_error_iff.mpr failed
    simp only [run, start_of_valid valid, refused]
    rfl
  · intro radio succeeded
    obtain ⟨_, installed, rfl⟩ := result_start_eq_ok_iff.mp succeeded
    have left := Dispatcher.dispatcher_install {} driver board bench
    rw [installed] at left
    have handlers := Dispatcher.handler?_install {} driver board bench
    rw [installed] at handlers
    refine ⟨Dispatcher.driver_install_of_ok installed, ?_, handlers, ?_⟩
    · exact congrArg (fun dispatcher => dispatcher.toRegistry) left
    · rw [left]
      exact ⟨rfl, rfl, rfl, rfl, rfl, rfl⟩

theorem set_up_in_order_three :
    let probe : Script := { id := "probe", runs := [] }
    let sound : ScriptedDriver := { requests := [.line 2 probe.handler] }
    let stuck := sound.setFailure "sleep" (some "stuck")
    let chip : SimulatedRadio := { chip := 0 }
    let broken : Settings := { preambleLength := 2, transmitTimeout := 0 }
    (∃ radio, (start sound () {} {}).result = .ok radio ∧
      radio.dispatcher.handler? (.line 2) = some probe.handler ∧
      radio.dispatcher.outcome = .busy) ∧
    (start stuck () {} {}).result = .error (.driver "stuck") ∧
      (start (Observed.mk stuck []) () {} {}).driver.calls =
        [.bringUp [.stored .registered], .perform .sleep] ∧
    broken.faults = [.shortPreamble, .noTransmitTimeout] ∧
      (start chip {} broken {}).result = .error (.settings .shortPreamble) ∧
      (start chip {} broken {}).bench = {} := by
  intro probe sound stuck chip broken
  have faultless : ({} : Settings).faults = [] := by decide
  have faulty : broken.faults = [.shortPreamble, .noTransmitTimeout] := by decide
  obtain ⟨outcome, _, _, _, left⟩ := set_up_in_order sound () {} {}
  obtain ⟨radio, succeeded⟩ := outcome.mpr ⟨by decide, rfl, rfl⟩
  obtain ⟨_, _, handlers, busy, _⟩ := left radio succeeded
  obtain ⟨_, _, called, _⟩ := set_up_in_order stuck () {} {}
  obtain ⟨_, rejected, _⟩ := set_up_in_order chip {} broken {}
  obtain ⟨result, _, _, bench⟩ := rejected _ _ faulty
  exact ⟨⟨radio, succeeded, handlers (.line 2), busy⟩,
    (called faultless).2 "stuck" (.inr ⟨rfl, rfl⟩), (called faultless).1, faulty, result, bench⟩

end Transceiver

end RadioInterrupt
