import RadioInterrupt.Proofs.Installation
import RadioInterrupt.Proofs.Renaming
import RadioInterrupt.SimulatedRadio

/-!
# Differences that a dispatcher does not notice

A `Variation` says what two uses of a dispatcher may differ in: events that may stand for each
other, handlers that may, and line slots whose handlers are not compared since no event reaches
them.  Requests for such slots are hidden, and `Matched` lists are the same but for what is hidden.
Requests, dispatches and installations keep two dispatchers alike that differ in this way.
-/

namespace RadioInterrupt

/-- The lists go together item by item, except that either has hidden items anywhere. -/
inductive Matched {α : Type*} (hidden : α → Prop) (alike : α → α → Prop) : List α → List α → Prop
  | nil : Matched hidden alike [] []
  | left {item : α} {items others : List α} (h : hidden item)
      (rest : Matched hidden alike items others) : Matched hidden alike (item :: items) others
  | right {other : α} {items others : List α} (h : hidden other)
      (rest : Matched hidden alike items others) : Matched hidden alike items (other :: others)
  | both {item other : α} {items others : List α} (h : alike item other)
      (rest : Matched hidden alike items others) :
      Matched hidden alike (item :: items) (other :: others)

namespace Matched

variable {α β : Type*} {hidden : α → Prop} {alike : α → α → Prop} {items others : List α}

theorem of_forall₂ (h : List.Forall₂ alike items others) : Matched hidden alike items others := by
  induction h with
  | nil => exact .nil
  | cons first rest ih => exact .both first ih

theorem forall₂ (h : Matched hidden alike items others) (shown : ∀ item, ¬ hidden item) :
    List.Forall₂ alike items others := by
  induction h with
  | nil => exact .nil
  | left hides rest ih | right hides rest ih => exact absurd hides (shown _)
  | both first rest ih => exact .cons first ih

theorem filterMap_eq (h : Matched hidden alike items others) {tell : α → Option β}
    (silent : ∀ item, hidden item → tell item = none)
    (same : ∀ item other, alike item other → tell other = tell item) :
    others.filterMap tell = items.filterMap tell := by
  induction h with
  | nil => rfl
  | left hides rest ih => rw [List.filterMap_cons, silent _ hides, ih]
  | right hides rest ih => rw [List.filterMap_cons, silent _ hides, ih]
  | both first rest ih => rw [List.filterMap_cons, List.filterMap_cons, same _ _ first, ih]

end Matched

structure Variation where
  Renames : Event → Event → Prop
  Replaces : Handler → Handler → Prop
  hides : Nat → Bool
  renames_refl : ∀ event, Renames event event
  replaces_refl : ∀ handler, Replaces handler handler
  slot_eq : ∀ {event other : Event}, Renames event other → other.slot = event.slot
  varies : ∀ {handler other : Handler}, Replaces handler other → handler.Varies Renames other
  advance : ∀ {handler other : Handler}, Replaces handler other →
    Replaces handler.advance other.advance
  shows : ∀ {event : Event} {place : Fin 6}, event.slot = .line place → hides place = false

namespace Variation

variable (v : Variation)

def compares : Slot → Bool
  | .line place => !v.hides place
  | .timer _ => true

theorem compares_slot (event : Event) : v.compares event.slot = true := by
  cases hslot : event.slot with
  | line place => rw [compares, v.shows hslot, Bool.not_false]
  | timer timer => rfl

inductive Results : Except Unconfigured Outcome → Except Unconfigured Outcome → Prop
  | ok (outcome : Outcome) : Results (.ok outcome) (.ok outcome)
  | error {event other : Event} (renamed : v.Renames event other) (slot : Nat) :
      Results (.error ⟨event, slot⟩) (.error ⟨other, slot⟩)

end Variation

variable {v : Variation}

/-! ## Requests -/

namespace Request

def isHidden (v : Variation) : Request → Bool
  | .line index _ => v.hides index
  | _ => false

inductive Varies (v : Variation) : Request → Request → Prop
  | line {handler other : Handler} (index : Nat) (shown : v.hides index = false)
      (replaced : v.Replaces handler other) : Varies v (.line index handler) (.line index other)
  | timer {handler other : Handler} (timer : Timer) (replaced : v.Replaces handler other) :
      Varies v (.timer timer handler) (.timer timer other)
  | table {handlers others : Vector (Option Handler) 6}
      (replaced : ∀ place : Fin 6, v.hides place = false →
        Option.Rel v.Replaces (handlers.get place) (others.get place)) :
      Varies v (.table handlers) (.table others)

variable {request other : Request} {slot : Slot}

theorem writes_of_isHidden (hidden : request.isHidden v = true)
    (compared : v.compares slot = true) : request.writes slot = [] := by
  cases request with
  | line index handler =>
      cases slot with
      | line place =>
          have apart : index ≠ place := by
            rintro rfl
            rw [Variation.compares, show v.hides place = true from hidden] at compared
            cases compared
          rw [writes, if_neg apart]
      | timer timer => rfl
  | timer | table => cases hidden

theorem Varies.getLast?_writes (h : request.Varies v other) (compared : v.compares slot = true) :
    Option.Rel (Option.Rel v.Replaces) (request.writes slot).getLast?
      (other.writes slot).getLast? := by
  cases h with
  | line index shown replaced =>
      cases slot with
      | line place =>
          rw [writes, writes]
          split
          · exact .some (.some replaced)
          · exact .none
      | timer place => exact .none
  | timer timer replaced =>
      cases slot with
      | line place => exact .none
      | timer place =>
          rw [writes, writes]
          split
          · exact .some (.some replaced)
          · exact .none
  | table replaced =>
      cases slot with
      | line place =>
          have shown : v.hides place = false := by
            simpa [Variation.compares] using compared
          exact .some (replaced place shown)
      | timer place => exact .none

end Request

theorem isSome_eq_of_rel {α : Type} {alike : α → α → Prop} {item other : Option α}
    (h : Option.Rel alike item other) : other.isSome = item.isSome := by
  cases h <;> rfl

theorem eq_of_rel_eq {α : Type} {item other : Option α} (h : Option.Rel Eq item other) :
    other = item := by
  cases h with
  | none => rfl
  | some same => rw [same]

def Registry.Varies (v : Variation) (registry other : Registry) : Prop :=
  ∀ slot, v.compares slot = true →
    Option.Rel v.Replaces (registry.handler? slot) (other.handler? slot)

/-- Lists of requests with their answers: those that are not hidden were answered alike. -/
def Variation.Told (v : Variation) (requests : List Request) (answers : List RequestAnswer)
    (others : List Request) (answersOther : List RequestAnswer) : Prop :=
  Matched (fun told : Request × RequestAnswer => told.1.isHidden v = true)
    (fun told other => told.1.Varies v other.1 ∧ other.2 = told.2)
    (requests.zip answers) (others.zip answersOther)

namespace Registry.Varies

variable {registry other : Registry} {request requestOther : Request}

theorem refl (v : Variation) (registry : Registry) : registry.Varies v registry := by
  intro slot compared
  cases registry.handler? slot with
  | none => exact .none
  | some handler => exact .some (v.replaces_refl handler)

theorem hide_left (h : registry.Varies v other) (hidden : request.isHidden v = true) :
    (registry.perform request).2.1.Varies v other := by
  intro slot compared
  rw [handler?_perform, Request.writes_of_isHidden hidden compared]
  exact h slot compared

theorem hide_right (h : registry.Varies v other) (hidden : request.isHidden v = true) :
    registry.Varies v (other.perform request).2.1 := by
  intro slot compared
  rw [handler?_perform, Request.writes_of_isHidden hidden compared]
  exact h slot compared

theorem perform (h : registry.Varies v other) (made : request.Varies v requestOther) :
    (other.perform requestOther).1 = (registry.perform request).1 ∧
      (registry.perform request).2.1.Varies v (other.perform requestOther).2.1 := by
  constructor
  · rw [answer_perform, answer_perform]
    cases made with
    | line index shown replaced =>
        rw [Request.answer, Request.answer]
        split
        · next inside =>
            have compared : v.compares (.line ⟨index, inside⟩) = true := by
              simp [Variation.compares, shown]
            rw [isSome_eq_of_rel (h _ compared)]
        · rfl
    | timer timer replaced =>
        rw [Request.answer, Request.answer, isSome_eq_of_rel (h (.timer timer) rfl)]
    | table replaced => rfl
  · intro slot compared
    rw [handler?_perform, handler?_perform]
    have written := made.getLast?_writes compared
    generalize (request.writes slot).getLast? = last at written
    generalize (requestOther.writes slot).getLast? = lastOther at written
    cases written with
    | none => exact h slot compared
    | some pair => exact pair

theorem performAll (h : registry.Varies v other) {requests others : List Request}
    (made : Matched (·.isHidden v = true) (·.Varies v ·) requests others) :
    v.Told requests (registry.performAll requests).1 others (other.performAll others).1 ∧
      (registry.performAll requests).2.1.Varies v (other.performAll others).2.1 := by
  induction made generalizing registry other with
  | nil => exact ⟨.nil, h⟩
  | left hidden rest ih =>
      obtain ⟨told, left⟩ := ih (h.hide_left hidden)
      exact ⟨.left hidden told, left⟩
  | right hidden rest ih =>
      obtain ⟨told, left⟩ := ih (h.hide_right hidden)
      exact ⟨.right hidden told, left⟩
  | both first rest ih =>
      obtain ⟨answer, next⟩ := h.perform first
      obtain ⟨told, left⟩ := ih next
      exact ⟨.both ⟨first, answer⟩ told, left⟩

end Registry.Varies

/-! ## Dispatches -/

structure Dispatcher.Varies (v : Variation) (dispatcher other : Dispatcher) : Prop where
  recorder : other.toRecorder = dispatcher.toRecorder
  registry : dispatcher.toRegistry.Varies v other.toRegistry

structure DispatchRun.Varies (v : Variation) (run other : DispatchRun) : Prop where
  result : v.Results run.result other.result
  dispatcher : run.dispatcher.Varies v other.dispatcher
  bench : run.bench.Varies v.Renames other.bench

namespace Dispatcher.Varies

variable {dispatcher other : Dispatcher} {bench benchOther : Bench} {event eventOther : Event}

theorem isConfigured (h : dispatcher.Varies v other) (renamed : v.Renames event eventOther) :
    other.isConfigured eventOther = dispatcher.isConfigured event := by
  rw [Dispatcher.isConfigured, Dispatcher.isConfigured, v.slot_eq renamed]
  exact isSome_eq_of_rel (h.registry event.slot (v.compares_slot event))

theorem recorder_begin (h : dispatcher.Varies v other) :
    other.begin.toRecorder = dispatcher.begin.toRecorder :=
  congrArg (fun recorder : Recorder => { recorder with
    outcome := .busy
    counters := { recorder.counters with dispatched := recorder.counters.dispatched + 1 } })
    h.recorder

theorem registry_dispatch (h : dispatcher.Varies v other) (renamed : v.Renames event eventOther)
    (bench benchOther : Bench) :
    (dispatcher.dispatch event bench).dispatcher.toRegistry.Varies v
      (other.dispatch eventOther benchOther).dispatcher.toRegistry := by
  intro slot compared
  have held := h.registry slot compared
  rw [handler?_dispatch, handler?_dispatch, v.slot_eq renamed]
  split
  · generalize dispatcher.handler? slot = handler at held
    generalize other.handler? slot = handlerOther at held
    cases held with
    | none => exact .none
    | some replaced => exact .some (v.advance replaced)
  · exact held

theorem dispatch (h : dispatcher.Varies v other) (hbench : bench.Varies v.Renames benchOther)
    (renamed : v.Renames event eventOther) :
    other.reports eventOther benchOther = dispatcher.reports event bench ∧
      (dispatcher.dispatch event bench).Varies v (other.dispatch eventOther benchOther) := by
  have registry := h.registry_dispatch renamed bench benchOther
  have found := h.registry event.slot (v.compares_slot event)
  have begun := h.recorder_begin
  generalize held : dispatcher.handler? event.slot = handler at found
  generalize heldOther : other.handler? event.slot = handlerOther at found
  rw [← v.slot_eq renamed] at heldOther
  cases found with
  | none =>
      refine ⟨by rw [reports_of_none held, reports_of_none heldOther], ?_⟩
      rw [dispatch_of_none held, dispatch_of_none heldOther] at registry ⊢
      rw [endUnhandled, endUnhandled, v.slot_eq renamed] at registry ⊢
      cases hslot : event.slot with
      | line index =>
          rw [hslot] at registry
          refine ⟨.error renamed index, ⟨?_, registry⟩, hbench.say _ _⟩
          exact congrArg (fun recorder : Recorder => { recorder with
            counters := { recorder.counters with
              unconfigured := recorder.counters.unconfigured + 1 } }) begun
      | timer timer =>
          rw [hslot] at registry
          refine ⟨.ok .busy, ⟨?_, registry⟩, hbench.say _ _⟩
          exact congrArg (fun recorder : Recorder => { recorder with
            counters := { recorder.counters with
              timerIgnored := recorder.counters.timerIgnored + 1
              busy := recorder.counters.busy + 1 } }) begun
  | some replaced =>
      obtain ⟨reports, recorder, left⟩ :=
        (v.varies replaced).run hbench v.renames_refl dispatcher.begin.toRecorder
      constructor
      · rw [reports_of_some held, reports_of_some heldOther, begun, reports]
      · rw [dispatch_of_handler held, dispatch_of_handler heldOther, begun, recorder]
          at registry ⊢
        exact ⟨.ok _, ⟨rfl, registry⟩, left.say _ _⟩

end Dispatcher.Varies

/-! ## Installations -/

structure Variation.Calls (v : Variation) {δ δ' ε : Type} (call : Except ε Unit × δ × Bench)
    (other : Except ε Unit × δ' × Bench) : Prop where
  result : other.1 = call.1
  bench : call.2.2.Varies v.Renames other.2.2

section Drivers

variable {δ δ' β β' ε : Type} [Driver δ β ε] [Driver δ' β' ε]

/-- Two drivers on their boards that make the same requests but for what varies, and do the same
when they were told the same: what they are told of hidden requests makes no difference to them. -/
structure Variation.Drivers (v : Variation) (driver : δ) (board : β) (other : δ')
    (boardOther : β') : Prop where
  requests : Matched (·.isHidden v = true) (·.Varies v ·) (Driver.requests driver board)
    (Driver.requests other boardOther)
  calls : ∀ {answers answersOther : List RequestAnswer} {bench benchOther : Bench},
    v.Told (Driver.requests driver board) answers (Driver.requests other boardOther)
      answersOther → bench.Varies v.Renames benchOther →
    let up := Driver.bringUp driver board answers bench
    let upOther := Driver.bringUp other boardOther answersOther benchOther
    v.Calls up upOther ∧
      v.Calls (Driver.perform up.2.1 .sleep up.2.2) (Driver.perform upOther.2.1 .sleep upOther.2.2)

structure InstallRun.Varies (v : Variation) (run : InstallRun δ ε) (other : InstallRun δ' ε) :
    Prop where
  result : other.result = run.result
  dispatcher : run.dispatcher.Varies v other.dispatcher
  bench : run.bench.Varies v.Renames other.bench

theorem Dispatcher.Varies.register {dispatcher other : Dispatcher} {bench benchOther : Bench}
    (h : dispatcher.Varies v other) (hbench : bench.Varies v.Renames benchOther)
    {request requestOther : Request} (made : request.Varies v requestOther) :
    (other.register requestOther benchOther).1 = (dispatcher.register request bench).1 ∧
      (dispatcher.register request bench).2.1.Varies v
        (other.register requestOther benchOther).2.1 ∧
      (dispatcher.register request bench).2.2.Varies v.Renames
        (other.register requestOther benchOther).2.2 := by
  obtain ⟨answer, registry⟩ := h.registry.perform made
  exact ⟨answer, ⟨h.recorder, registry⟩, hbench.say _ _⟩

theorem Dispatcher.Varies.install {dispatcher other : Dispatcher} {bench benchOther : Bench}
    (h : dispatcher.Varies v other) (hbench : bench.Varies v.Renames benchOther) {driver : δ}
    {board : β} {driverOther : δ'} {boardOther : β'}
    (drivers : v.Drivers driver board driverOther boardOther) :
    (dispatcher.install driver board bench).Varies v
      (other.install driverOther boardOther benchOther) := by
  obtain ⟨told, filled⟩ := (Registry.Varies.refl v .empty).performAll drivers.requests
  obtain ⟨up, slept⟩ := drivers.calls told ((hbench.say _ _).say _ _)
  change v.Calls (dispatcher.bringingUp driver board bench)
    (other.bringingUp driverOther boardOther benchOther) at up
  change v.Calls (dispatcher.fallingAsleep driver board bench)
    (other.fallingAsleep driverOther boardOther benchOther) at slept
  have result : (other.install driverOther boardOther benchOther).result =
      (dispatcher.install driver board bench).result := by
    rw [result_install, result_install, up.result, slept.result]
  refine ⟨result, ⟨?_, ?_⟩, ?_⟩
  · rw [dispatcher_install, dispatcher_install]
    exact congrArg (fun recorder : Recorder => { recorder with inbox := recorder.inbox.clear })
      h.recorder
  · rw [dispatcher_install, dispatcher_install, result]
    split
    · exact filled
    · exact .refl v .empty
  · simp only [install_eq, up.result, slept.result]
    cases (dispatcher.bringingUp driver board bench).1 with
    | error error => exact up.bench.say _ _
    | ok done =>
        cases (dispatcher.fallingAsleep driver board bench).1 with
        | error error => exact slept.bench.say _ _
        | ok done => exact slept.bench.say _ _

end Drivers

/-! ## Drivers that vary -/

theorem Request.Varies.refl {request : Request} (shown : request.isHidden v = false) :
    request.Varies v request := by
  cases request with
  | line index handler => exact .line index shown (v.replaces_refl handler)
  | timer timer handler => exact .timer timer (v.replaces_refl handler)
  | table handlers =>
      refine .table fun place _ => ?_
      cases handlers.get place with
      | none => exact .none
      | some handler => exact .some (v.replaces_refl handler)

namespace SimulatedRadio

variable {bench other : Bench}

theorem isHidden_of_mem_requests {radio : SimulatedRadio} {board : SimulatedBoard}
    {request : Request} (h : request ∈ radio.requests board) (v : Variation) :
    request.isHidden v = false := by
  have shown : v.hides 0 = false := v.shows (Event.slot_line_of_ne (show (0 : Fin 6) ≠ 1 by decide))
  rw [requests] at h
  split at h
  · rcases List.mem_cons.mp h with rfl | timers
    · exact shown
    · split at timers
      · rcases List.mem_pair.mp timers with rfl | rfl <;> rfl
      · cases timers
  · cases h

theorem perform_varies (radio : SimulatedRadio) (command : Command)
    (h : bench.Varies v.Renames other) :
    v.Calls (Driver.perform radio command bench) (Driver.perform radio command other) := by
  change v.Calls ((radio.perform command bench).1, radio, (radio.perform command bench).2)
    ((radio.perform command other).1, radio, (radio.perform command other).2)
  rw [perform, perform, h.chips]
  cases SimulatedRadio.command (bench.chips radio.chip) command with
  | error error => exact ⟨rfl, h⟩
  | ok chip => exact ⟨rfl, h.setChip radio.chip chip⟩

theorem bringUp_varies (radio : SimulatedRadio) (board : SimulatedBoard)
    (answers answersOther : List RequestAnswer) (h : bench.Varies v.Renames other) :
    v.Calls (Driver.bringUp radio board answers bench)
      (Driver.bringUp radio board answersOther other) := by
  change v.Calls ((radio.bringUp board bench).1, radio, (radio.bringUp board bench).2)
    ((radio.bringUp board other).1, radio, (radio.bringUp board other).2)
  rw [bringUp, bringUp, h.chips]
  cases radio.responsive with
  | true => exact ⟨rfl, (h.setChip radio.chip _).say _ _⟩
  | false => exact ⟨rfl, h⟩

theorem drivers (radio : SimulatedRadio) (board : SimulatedBoard) :
    v.Drivers radio board radio board where
  requests := .of_forall₂ (List.forall₂_same.mpr fun _ member =>
    .refl (isHidden_of_mem_requests member v))
  calls {answers answersOther _ _} _ h := by
    have up := radio.bringUp_varies board answers answersOther h
    exact ⟨up, radio.perform_varies .sleep up.bench⟩

end SimulatedRadio

namespace ScriptedDriver

theorem noteAnswers_silent (answers : List RequestAnswer) (bench : Bench) :
    (noteAnswers answers bench).chips = bench.chips ∧
      (noteAnswers answers bench).queue = bench.queue ∧
      (noteAnswers answers bench).ran = bench.ran := by
  induction answers generalizing bench with
  | nil => exact ⟨rfl, rfl, rfl⟩
  | cons answer answers ih =>
      obtain ⟨chips, queue, ran⟩ := ih (bench.note (.registered answer))
      refine ⟨chips, queue, ran.trans ?_⟩
      rw [Bench.ran_note, List.append_nil]

theorem drivers {driver other : ScriptedDriver}
    (requests : Matched (·.isHidden v = true) (·.Varies v ·) driver.requests other.requests)
    (failures : other.failures = driver.failures) : v.Drivers driver () other () where
  requests := requests
  calls {answers answersOther bench benchOther} _ h := by
    obtain ⟨chips, queue, ran⟩ := noteAnswers_silent answers bench
    obtain ⟨chipsOther, queueOther, ranOther⟩ := noteAnswers_silent answersOther benchOther
    have noted : (noteAnswers answers bench).Varies v.Renames
        (noteAnswers answersOther benchOther) := by
      refine ⟨?_, ?_, ?_⟩
      · rw [chips, chipsOther, h.chips]
      · rw [queue, queueOther]
        exact h.queue
      · rw [ran, ranOther, h.ran]
    have up := noted.note (.refl .broughtUp)
    have slept := up.note (.refl (.commanded .sleep))
    have same (name : String) : other.result name = driver.result name := by
      rw [result, result, failures]
    exact ⟨⟨same _, up⟩, ⟨same _, slept⟩⟩

end ScriptedDriver

end RadioInterrupt
