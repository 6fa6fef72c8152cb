import RadioInterrupt.Proofs.FrameBuffer

/-!
# A transceiver is a front of its dispatcher

A bare dispatcher is used beside a transceiver: it dispatches the same events, gets a zeroed buffer
or gives one back when the transceiver starts or stops to listen, and its own driver is called as
the other driver is.  Forgetting frame buffer, settings and journal takes the states of the one to
the states of the other (`Usage.bare`), and one call after the other this stays so.
-/

namespace RadioInterrupt

structure Bare (δ : Type) where
  dispatcher : Dispatcher
  driver : δ
  bench : Bench

namespace Bare

variable {δ β ε : Type}

def act (bare : Bare δ) : Call → Bare δ
  | .handle event =>
      let run := bare.dispatcher.dispatch event bare.bench
      { bare with dispatcher := run.dispatcher, bench := run.bench }
  | .listen =>
      { bare with
        dispatcher :=
          if bare.dispatcher.inbox.registered.map List.length = some 255 then bare.dispatcher
          else bare.dispatcher.setBuffer (.owned (List.replicate 255 0)) }
  | .release => { bare with dispatcher := bare.dispatcher.takeBuffer }
  | _ => bare

def say (bare : Bare δ) (messages : List Message) : Bare δ :=
  { bare with bench := bare.bench.say messages }

variable [Driver δ β ε]

def tell (bare : Bare δ) : DriverCall → Bare δ
  | .bringUp _ => bare
  | .perform command =>
      let told := Driver.perform bare.driver command bare.bench
      { bare with driver := told.2.1, bench := told.2.2 }

/-- One call, with the same lines in the log and the same calls to the driver. -/
def mirror (bare : Bare δ) (usage : Usage δ ε) (call : Call) : Bare δ :=
  (usage.radio.driverCalls call usage.bench).foldl tell
    ((bare.act call).say (usage.radio.remarks call))

def perform (bare : Bare δ) (usage : Usage δ ε) : Usage.Step δ → Bare δ
  | .call call => bare.mirror usage call
  | .arrange change => { bare with bench := change bare.bench }
  | .adjust change => { bare with driver := change bare.driver }

def follow (bare : Bare δ) (usage : Usage δ ε) : List (Usage.Step δ) → Bare δ
  | [] => bare
  | step :: steps => (bare.perform usage step).follow (usage.perform step) steps

end Bare

namespace Transceiver

variable {δ ε : Type} {radio : Transceiver δ} {event : Event} {bench : Bench}

theorem result_handle_error_iff {fault : Unconfigured} :
    (radio.handle (ε := ε) event bench).result = .error (.dispatch fault) ↔
      (radio.dispatcher.dispatch event bench).result = .error fault := by
  simp only [handle_eq]
  cases (radio.dispatcher.dispatch event bench).result with
  | error unconfigured =>
    change Except.error (RadioError.dispatch unconfigured) = _ ↔ _
    rw [Except.error.injEq, Except.error.injEq, RadioError.dispatch.injEq]
  | ok outcome =>
    change Except.ok _ = _ ↔ _
    simp only [reduceCtorEq]

theorem result_handle_of_outcome {outcome : Outcome}
    (h : (radio.dispatcher.dispatch event bench).result = .ok outcome) :
    ∃ response, (radio.handle (ε := ε) event bench).result = .ok response ∧
      response.outcome = outcome := by
  simp only [handle_eq, h]
  exact ⟨_, rfl, Response.outcome_ofOutcome _ _⟩

end Transceiver

namespace Usage

variable {δ β ε : Type}

def bare (usage : Usage δ ε) : Bare δ :=
  ⟨usage.radio.dispatcher, usage.radio.driver, usage.bench⟩

theorem act_bare (usage : Usage δ ε) {call : Call} (h : call.isDispatch = false) :
    usage.bare.act call =
      { usage.bare with
        dispatcher := call.dispatcherAfter usage.radio.dispatcher usage.bench } := by
  cases call with
  | handle event => cases h
  | _ => rfl

variable [Driver δ β ε]

theorem mirror_bare (usage : Usage δ ε) (call : Call) :
    usage.bare.mirror usage call = (usage.make call).bare := by
  have left := usage.radio.dispatcher_call call usage.bench
  -- The bare dispatcher acts before its driver is told anything, as the transceiver does.
  rw [Bare.mirror, Transceiver.driverCalls_eq]
  cases hcommand : usage.radio.command? call with
  | some command =>
      have kind : call.isDispatch = false := by
        cases call with
        | handle event => cases hcommand
        | _ => rfl
      rw [act_bare usage kind]
      simp only [make, bare, left]
      rw [Transceiver.call_of_command hcommand]
      rfl
  | none =>
      rw [Transceiver.remarks_of_quiet hcommand]
      cases kind : call.isDispatch with
      | true =>
          obtain ⟨event, rfl⟩ := Transceiver.exists_event_of_isDispatch kind
          simp only [make, bare, Transceiver.call_handle, Transceiver.handle_eq, Bare.say,
            Bench.say_nil]
          rfl
      | false =>
          rw [act_bare usage kind]
          simp only [make, bare, left]
          rw [Transceiver.call_of_quiet hcommand kind]
          simp only [Bare.say, Bench.say_nil, Transceiver.driver_prepared]
          rfl

theorem follow_bare (usage : Usage δ ε) (steps : List (Step δ)) :
    usage.bare.follow usage steps = (usage.run steps).bare := by
  induction steps generalizing usage with
  | nil => rfl
  | cons step steps ih =>
      have same : usage.bare.perform usage step = (usage.perform step).bare := by
        cases step with
        | call call => exact usage.mirror_bare call
        | arrange change => rfl
        | adjust change => rfl
      rw [Bare.follow, same]
      exact ih _

/-- After any calls the bare dispatcher is in the state of the transceiver's own, and the next event
is answered alike: the same fault, or a response with the name of the same outcome.  The link
figures of a response are those of the frame that this very dispatch accepts. -/
theorem fronts_bare_dispatcher {driver : δ} {board : β} {settings : Settings} {bench : Bench}
    {opened : Usage δ ε}
    (h : (Transceiver.start driver board settings bench).opened? = some opened)
    (steps : List (Step δ)) :
    let installed := Dispatcher.install {} driver board bench
    let beside : Bare δ := ⟨installed.dispatcher, installed.driver, installed.bench⟩
    let usage := opened.run steps
    let bare := beside.follow opened steps
    (bare.dispatcher = usage.radio.dispatcher ∧ bare.driver = usage.radio.driver ∧
      bare.bench = usage.bench) ∧
    (∀ event,
      let answer := (usage.radio.handle (ε := ε) event usage.bench).result
      let run := bare.dispatcher.dispatch event bare.bench
      (∀ fault, answer = .error (.dispatch fault) ↔ run.result = .error fault) ∧
      (∀ outcome, run.result = .ok outcome →
        run.dispatcher.outcome = outcome ∧
          ∃ response, answer = .ok response ∧ response.outcome = outcome) ∧
      (∀ rssi snr, answer = .ok (.rxDone rssi snr) ↔
        ∃ frame, bare.dispatcher.accepted event bare.bench = some frame ∧ frame.rssi = rssi ∧
          frame.snr = snr)) ∧
    (∀ bytes, usage.radio.dispatcher.inbox.registered = some bytes → bytes.length = 255) := by
  intro installed beside usage bare
  have same : bare = usage.bare := by
    have start : beside = opened.bare := by
      obtain ⟨_, rfl⟩ := of_opened h
      rfl
    exact (congrArg (·.follow opened steps) start).trans (opened.follow_bare steps)
  rw [same]
  refine ⟨⟨rfl, rfl, rfl⟩, ?_, invariant_fitted.run (fitted_opened h) steps⟩
  intro event answer run
  refine ⟨fun fault => Transceiver.result_handle_error_iff, ?_,
    fun rssi snr => Transceiver.result_handle_rxDone_iff⟩
  intro outcome ended
  have shown : run.dispatcher.outcome = outcome :=
    (usage.radio.dispatcher.outcome_dispatch event usage.bench).trans
      (Dispatcher.outcome_of_result ended).symm
  exact ⟨shown, Transceiver.result_handle_of_outcome ended⟩

theorem fronts_bare_dispatcher_second :
    let latch (frame : Frame) (bench : Bench) :=
      bench.setChip 0 ((bench.chips 0).latch (.rxDone frame))
    let steps : List (Step SimulatedRadio) :=
      [.call .listen, .arrange (latch ⟨[1, 2, 3], -80, 7⟩), .call (.handle (.line 0)),
        .call (.send [4]), .call (.setHopping (.every 9)), .call .listen,
        .arrange (latch ⟨[5], -97, 4⟩)]
    (Transceiver.start ({ chip := 0 } : SimulatedRadio) {} {} {}).opened? = some simulated ∧
      let usage := simulated.run steps
      let bare := simulated.bare.follow simulated steps
      bare.dispatcher = usage.radio.dispatcher ∧
        (usage.radio.handle (ε := ChipError) (.line 0) usage.bench).result =
          .ok (.rxDone (-97) 4) := by
  intro latch steps
  obtain ⟨⟨dispatcher, _⟩, answers, _⟩ := fronts_bare_dispatcher opened_simulated steps
  have accepted : (simulated.bare.follow simulated steps).dispatcher.accepted (.line 0)
      (simulated.bare.follow simulated steps).bench = some ⟨[5], -97, 4⟩ := by decide +kernel
  have received := ((answers (.line 0)).2.2 (-97) 4).mpr ⟨_, accepted, rfl, rfl⟩
  exact ⟨opened_simulated, dispatcher, received⟩

end Usage

end RadioInterrupt
