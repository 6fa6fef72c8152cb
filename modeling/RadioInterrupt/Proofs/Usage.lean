import RadioInterrupt.Proofs.SettingUp

/-!
# Transceivers in use

A usage is a transceiver on a bench, with a journal of the calls that were made, the latest first.
Between two calls anything may happen on the bench, and to a driver that others can reach.  What
every call keeps, and everything between calls, holds of a whole usage (`Usage.Invariant.run`).
-/

namespace RadioInterrupt

structure Called (ε : Type) where
  call : Call
  /-- The frame buffer before the call. -/
  frame : Bytes
  driverCalls : List DriverCall
  result : Except (RadioError ε) Reply

structure Usage (δ ε : Type) where
  radio : Transceiver δ
  bench : Bench
  journal : List (Called ε) := []

def Transceiver.called {δ β ε : Type} [Driver δ β ε] (radio : Transceiver δ) (call : Call)
    (bench : Bench) : Called ε where
  call := call
  frame := radio.frame
  driverCalls := radio.driverCalls call bench
  result := (radio.call call bench).result

def StartRun.opened? {δ ε : Type} (run : StartRun δ ε) : Option (Usage δ ε) :=
  run.result.toOption.map fun radio => { radio, bench := run.bench }

theorem StartRun.opened?_eq_some_iff {δ ε : Type} {run : StartRun δ ε} {opened : Usage δ ε} :
    run.opened? = some opened ↔
      ∃ radio, run.result = .ok radio ∧ opened = { radio, bench := run.bench } := by
  rw [opened?]
  cases run.result <;> simp [Except.toOption, eq_comm]

namespace Usage

variable {δ β ε : Type}

inductive Step (δ : Type) where
  | call (call : Call)
  /-- Anything that happens on the bench between two calls. -/
  | arrange (change : Bench → Bench)
  | adjust (change : δ → δ)

def arrange (usage : Usage δ ε) (change : Bench → Bench) : Usage δ ε :=
  { usage with bench := change usage.bench }

def adjust (usage : Usage δ ε) (change : δ → δ) : Usage δ ε :=
  { usage with radio := { usage.radio with driver := change usage.radio.driver } }

variable [Driver δ β ε]

def make (usage : Usage δ ε) (call : Call) : Usage δ ε :=
  let run := usage.radio.call call usage.bench
  { radio := run.radio
    bench := run.bench
    journal := usage.radio.called call usage.bench :: usage.journal }

def perform (usage : Usage δ ε) : Step δ → Usage δ ε
  | .call call => usage.make call
  | .arrange change => usage.arrange change
  | .adjust change => usage.adjust change

def run (usage : Usage δ ε) (steps : List (Step δ)) : Usage δ ε :=
  steps.foldl perform usage

structure Invariant (holds : Usage δ ε → Prop) : Prop where
  make : ∀ usage call, holds usage → holds (usage.make call)
  arrange : ∀ usage change, holds usage → holds (usage.arrange change)
  adjust : ∀ usage change, holds usage → holds (usage.adjust change)

theorem Invariant.run {holds : Usage δ ε → Prop} (kept : Invariant holds) {usage : Usage δ ε}
    (h : holds usage) (steps : List (Step δ)) : holds (usage.run steps) := by
  induction steps generalizing usage with
  | nil => exact h
  | cons step steps ih =>
      apply ih
      cases step with
      | call call => exact kept.make usage call h
      | arrange change => exact kept.arrange usage change h
      | adjust change => exact kept.adjust usage change h

theorem of_opened {driver : δ} {board : β} {settings : Settings} {bench : Bench}
    {opened : Usage δ ε}
    (h : (Transceiver.start driver board settings bench).opened? = some opened) :
    let run := Dispatcher.install {} driver board bench
    settings.validate = .ok () ∧
      opened =
        { radio := { driver := run.driver, dispatcher := run.dispatcher, settings }
          bench := run.bench } := by
  obtain ⟨radio, succeeded, rfl⟩ := StartRun.opened?_eq_some_iff.mp h
  obtain ⟨valid, _, rfl⟩ := Transceiver.result_start_eq_ok_iff.mp succeeded
  rw [Transceiver.start_of_valid valid]
  exact ⟨Settings.validate_eq_ok_iff.mpr valid, rfl⟩

theorem installed_of_opened {driver : δ} {board : β} {settings : Settings} {bench : Bench}
    {opened : Usage δ ε}
    (h : (Transceiver.start driver board settings bench).opened? = some opened) :
    ∃ done, (Dispatcher.install {} driver board bench).result = .ok done := by
  obtain ⟨radio, succeeded, _⟩ := StartRun.opened?_eq_some_iff.mp h
  obtain ⟨_, installed, _⟩ := Transceiver.result_start_eq_ok_iff.mp succeeded
  exact ⟨(), installed⟩

def simulated : Usage SimulatedRadio ChipError :=
  let run := Dispatcher.install {} ({ chip := 0 } : SimulatedRadio) {} {}
  { radio := { driver := run.driver, dispatcher := run.dispatcher, settings := {} }
    bench := run.bench }

theorem opened_simulated :
    (Transceiver.start ({ chip := 0 } : SimulatedRadio) {} {} {}).opened? = some simulated := rfl

end Usage

end RadioInterrupt
