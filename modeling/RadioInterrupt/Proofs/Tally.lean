import RadioInterrupt.Proofs.Course
import RadioInterrupt.Script

/-!
# What the counters count

Every dispatch ends in one of seven ways: a line without a handler, no report at all, or a first
report with one of five outcomes.  `Counters.tally` counts the dispatches of a list by the way they
ended, and the counters of a dispatcher are the tally of its dispatches since the last reset.  They
are words, so the tally is taken modulo their size until few dispatches are assumed.
-/

namespace RadioInterrupt

/-! ## The ends of a dispatch -/

namespace Dispatched

def settledAs (made : Dispatched) (outcome : Outcome) : Bool :=
  made.reports.head?.any (·.outcome = outcome)

def endedBusy (made : Dispatched) : Bool :=
  match made.result with
  | .ok .busy => true
  | _ => false

def unconfigured (made : Dispatched) : Bool :=
  made.handler.isNone && made.event.isLine

def ignored (made : Dispatched) : Bool :=
  made.handler.isNone && !made.event.isLine

def truncated (made : Dispatched) : Bool :=
  made.accepted.any fun frame => made.buffer.any fun bytes => bytes.length < frame.payload.length

def unbuffered (made : Dispatched) : Bool :=
  made.accepted.isSome && made.buffer.isNone

structure Coherent (made : Dispatched) : Prop where
  reports : made.handler = none → made.reports = []
  result : made.result = match made.handler with
    | none => made.event.unhandled
    | some _ => .ok (made.reports.head?.elim .busy Report.outcome)

end Dispatched

theorem Dispatcher.coherent_observe (dispatcher : Dispatcher) (event : Event) (bench : Bench) :
    (dispatcher.observe event bench).Coherent := by
  constructor
  · intro h
    exact reports_of_none h bench
  · cases h : dispatcher.handler? event.slot with
    | none =>
        simp only [observe, h]
        exact result_of_none h bench
    | some handler =>
        simp only [observe, h]
        exact result_of_some h bench

theorem Event.slot_line (pin : Fin 6) : ∃ index, (Event.line pin).slot = .line index := by
  by_cases first : pin = 1
  · exact ⟨0, if_pos first⟩
  · exact ⟨pin, if_neg first⟩

theorem Event.unhandled_of_isLine {event : Event} (h : event.isLine = true) :
    ∃ index, event.unhandled = .error ⟨event, index⟩ := by
  cases event with
  | line pin =>
      obtain ⟨index, hslot⟩ := slot_line pin
      exact ⟨index, by rw [unhandled, hslot]⟩
  | timer id => cases h

theorem Event.unhandled_of_not_isLine {event : Event} (h : event.isLine = false) :
    event.unhandled = .ok .busy := by
  cases event with
  | line pin => cases h
  | timer id => rfl

namespace Dispatched.Coherent

variable {made : Dispatched}

theorem one_end (h : made.Coherent) :
    (made.settledAs .txDone).toNat + (made.settledAs .rxDone).toNat +
      (made.settledAs .txTimeout).toNat + (made.settledAs .rxTimeout).toNat +
      (made.settledAs .rxError).toNat + made.endedBusy.toNat + made.unconfigured.toNat = 1 := by
  have result := h.result
  cases hhandler : made.handler with
  | none =>
      rw [hhandler] at result
      have silent := h.reports hhandler
      cases hline : made.event.isLine with
      | true =>
          obtain ⟨index, herror⟩ := Event.unhandled_of_isLine hline
          simp [settledAs, endedBusy, unconfigured, result, herror, silent, hhandler, hline]
      | false =>
          have hbusy := Event.unhandled_of_not_isLine hline
          simp [settledAs, endedBusy, unconfigured, result, hbusy, silent, hhandler, hline]
  | some handler =>
      rw [hhandler] at result
      cases hfirst : made.reports.head? with
      | none => simp [settledAs, endedBusy, unconfigured, result, hfirst, hhandler]
      | some report =>
          cases report <;>
            simp [settledAs, endedBusy, unconfigured, result, hfirst, hhandler, Report.outcome]

theorem endedBusy_iff (h : made.Coherent) :
    made.endedBusy = true ↔ made.ignored = true ∨ made.handler.isSome ∧ made.reports = [] := by
  have result := h.result
  cases hhandler : made.handler with
  | none =>
      rw [hhandler] at result
      cases hline : made.event.isLine with
      | true =>
          obtain ⟨index, herror⟩ := Event.unhandled_of_isLine hline
          simp [endedBusy, ignored, result, herror, hhandler, hline]
      | false =>
          have hbusy := Event.unhandled_of_not_isLine hline
          simp [endedBusy, ignored, result, hbusy, hhandler, hline]
  | some handler =>
      rw [hhandler] at result
      cases hreports : made.reports with
      | nil => simp [endedBusy, ignored, result, hreports, hhandler]
      | cons report later =>
          cases report <;>
            simp [endedBusy, ignored, result, hreports, hhandler, Report.outcome]

end Dispatched.Coherent

theorem Dispatched.misfit_le (made : Dispatched) :
    made.truncated.toNat + made.unbuffered.toNat ≤ (made.settledAs .rxDone).toNat := by
  cases hfirst : made.reports.head? with
  | none => simp [truncated, unbuffered, accepted, hfirst]
  | some report =>
      cases report with
      | rxDone frame =>
          have done : made.settledAs .rxDone = true := by
            simp [settledAs, hfirst, Report.outcome]
          have found : made.accepted = some frame := by
            simp [accepted, hfirst, Report.frame?]
          cases hbuffer : made.buffer with
          | none => simp [truncated, unbuffered, done, hbuffer, found]
          | some bytes =>
              rw [done]
              simp [unbuffered, hbuffer, Bool.toNat_le]
      | txDone | txTimeout | rxTimeout | rxError =>
          simp [truncated, unbuffered, accepted, hfirst, Report.frame?]

/-! ## Counting one dispatch more -/

namespace Counters

def count (counters : Counters) (made : Dispatched) : Counters where
  dispatched := counters.dispatched + 1
  txDone := counters.txDone + if made.settledAs .txDone then 1 else 0
  rxDone := counters.rxDone + if made.settledAs .rxDone then 1 else 0
  txTimeout := counters.txTimeout + if made.settledAs .txTimeout then 1 else 0
  rxTimeout := counters.rxTimeout + if made.settledAs .rxTimeout then 1 else 0
  rxError := counters.rxError + if made.settledAs .rxError then 1 else 0
  busy := counters.busy + if made.endedBusy then 1 else 0
  unconfigured := counters.unconfigured + if made.unconfigured then 1 else 0
  timerIgnored := counters.timerIgnored + if made.ignored then 1 else 0
  rxTruncated := counters.rxTruncated + if made.truncated then 1 else 0
  rxUnbuffered := counters.rxUnbuffered + if made.unbuffered then 1 else 0

def tally (list : List Dispatched) : Counters where
  dispatched := .ofNat list.length
  txDone := .ofNat (list.countP (·.settledAs .txDone))
  rxDone := .ofNat (list.countP (·.settledAs .rxDone))
  txTimeout := .ofNat (list.countP (·.settledAs .txTimeout))
  rxTimeout := .ofNat (list.countP (·.settledAs .rxTimeout))
  rxError := .ofNat (list.countP (·.settledAs .rxError))
  busy := .ofNat (list.countP (·.endedBusy))
  unconfigured := .ofNat (list.countP (·.unconfigured))
  timerIgnored := .ofNat (list.countP (·.ignored))
  rxTruncated := .ofNat (list.countP (·.truncated))
  rxUnbuffered := .ofNat (list.countP (·.unbuffered))

theorem ofNat_countP_cons {α : Type} (holds : α → Bool) (first : α) (rest : List α) :
    UInt64.ofNat ((first :: rest).countP holds) =
      UInt64.ofNat (rest.countP holds) + if holds first then 1 else 0 := by
  rw [List.countP_cons]
  split
  · rw [UInt64.ofNat_add]
    rfl
  · exact (UInt64.add_zero _).symm

theorem tally_cons (made : Dispatched) (earlier : List Dispatched) :
    tally (made :: earlier) = (tally earlier).count made := by
  simp only [tally, count, ofNat_countP_cons, List.length_cons, UInt64.ofNat_add]
  rfl

end Counters

namespace Dispatched.Coherent

variable {made : Dispatched}

theorem count_of_line (h : made.Coherent) (hhandler : made.handler = none)
    (hline : made.event.isLine = true) (counters : Counters) :
    counters.count made =
      { counters with
        dispatched := counters.dispatched + 1
        unconfigured := counters.unconfigured + 1 } := by
  have silent := h.reports hhandler
  have result := h.result
  obtain ⟨index, herror⟩ := Event.unhandled_of_isLine hline
  rw [hhandler, herror] at result
  simp [Counters.count, settledAs, endedBusy, unconfigured, ignored, truncated, unbuffered,
    accepted, hhandler, hline, silent, result]

theorem count_of_timer (h : made.Coherent) (hhandler : made.handler = none)
    (htimer : made.event.isLine = false) (counters : Counters) :
    counters.count made =
      { counters with
        dispatched := counters.dispatched + 1
        busy := counters.busy + 1
        timerIgnored := counters.timerIgnored + 1 } := by
  have silent := h.reports hhandler
  have result := h.result
  rw [hhandler, Event.unhandled_of_not_isLine htimer] at result
  simp [Counters.count, settledAs, endedBusy, unconfigured, ignored, truncated, unbuffered,
    accepted, hhandler, htimer, silent, result]

theorem count_of_handler (h : made.Coherent) {handler : Handler}
    (hhandler : made.handler = some handler) (counters : Counters) :
    let begun := { counters with dispatched := counters.dispatched + 1 }
    counters.count made =
      (made.accepted.elim begun fun frame => begun.countFrame frame.payload made.buffer).record
        (made.reports.head?.elim .busy Report.outcome) := by
  have result := h.result
  rw [hhandler] at result
  cases hfirst : made.reports.head? with
  | none =>
      simp [Counters.count, settledAs, endedBusy, unconfigured, ignored, truncated, unbuffered,
        accepted, hhandler, hfirst, result, Counters.record]
  | some report =>
      cases report with
      | rxDone frame =>
          have found : made.accepted = some frame := by
            simp [accepted, hfirst, Report.frame?]
          cases hbuffer : made.buffer with
          | none =>
              simp [Counters.count, settledAs, endedBusy, unconfigured, ignored, truncated,
                unbuffered, found, hhandler, hfirst, hbuffer, result, Counters.record,
                Counters.countFrame, Report.outcome]
          | some bytes =>
              by_cases cut : bytes.length < frame.payload.length <;>
                simp [Counters.count, settledAs, endedBusy, unconfigured, ignored, truncated,
                  unbuffered, found, hhandler, hfirst, hbuffer, result, Counters.record,
                  Counters.countFrame, Report.outcome, cut]
      | txDone | txTimeout | rxTimeout | rxError =>
          simp [Counters.count, settledAs, endedBusy, unconfigured, ignored, truncated, unbuffered,
            accepted, hhandler, hfirst, result, Counters.record, Report.outcome, Report.frame?]

end Dispatched.Coherent

theorem Dispatcher.counters_dispatch (dispatcher : Dispatcher) (event : Event) (bench : Bench) :
    (dispatcher.dispatch event bench).dispatcher.counters =
      dispatcher.counters.count (dispatcher.observe event bench) := by
  have coherent := dispatcher.coherent_observe event bench
  cases h : dispatcher.handler? event.slot with
  | none =>
      rw [dispatch_of_none h]
      cases event with
      | line pin =>
          obtain ⟨index, hslot⟩ := Event.slot_line pin
          rw [coherent.count_of_line h rfl, endUnhandled, hslot]
          rfl
      | timer id =>
          rw [coherent.count_of_timer h rfl]
          rfl
  | some handler =>
      rw [dispatch_of_handler h, coherent.count_of_handler h]
      change (handler.run _ _).1.counters.record (handler.run _ _).1.outcome = _
      rw [recorder_of_some h, Recorder.counters_settle dispatcher.outcome_begin,
        Recorder.outcome_settle dispatcher.outcome_begin]
      rfl

/-! ## The journal since the last reset -/

namespace Entry

def dispatched? : Entry → Option Dispatched
  | .dispatched made => some made
  | _ => none

def isReset : Entry → Bool
  | .countersReset => true
  | _ => false

/-- The dispatches since the last reset, the latest first. -/
def sinceReset (journal : List Entry) : List Dispatched :=
  (journal.takeWhile (!·.isReset)).filterMap dispatched?

@[simp] theorem sinceReset_dispatched (made : Dispatched) (journal : List Entry) :
    sinceReset (.dispatched made :: journal) = made :: sinceReset journal := rfl

end Entry

namespace Course

structure Tallied (course : Course) : Prop where
  counters : course.dispatcher.counters = .tally (Entry.sinceReset course.journal)
  coherent : ∀ made ∈ Entry.sinceReset course.journal, made.Coherent

theorem tallied_start (region : Bytes) (bench : Bench) : (start region bench).Tallied := by
  constructor
  · rfl
  · intro made h
    cases h

theorem counters_install {δ β ε : Type} [Driver δ β ε] (course : Course) (driver : δ) (board : β) :
    (course.install driver board).dispatcher.counters = course.dispatcher.counters := by
  change (course.dispatcher.install driver board course.bench).dispatcher.counters = _
  rw [Dispatcher.dispatcher_install]
  rfl

theorem invariant_tallied : Invariant Tallied where
  register course request h := ⟨h.counters, h.coherent⟩
  install course driver board h := by
    constructor
    · rw [counters_install]
      exact h.counters
    · exact h.coherent
  setBuffer course buffer h := ⟨h.counters, h.coherent⟩
  takeBuffer course h := ⟨h.counters, h.coherent⟩
  resetCounters course h := by
    constructor
    · rfl
    · intro made hmade
      cases hmade
  dispatch course event h := by
    constructor
    · rw [dispatch, Entry.sinceReset_dispatched, Counters.tally_cons, ← h.counters]
      exact course.dispatcher.counters_dispatch event course.bench
    · intro made hmade
      rw [dispatch, Entry.sinceReset_dispatched, List.mem_cons] at hmade
      rcases hmade with rfl | earlier
      · exact course.dispatcher.coherent_observe event course.bench
      · exact h.coherent made earlier
  arrange course change h := ⟨h.counters, h.coherent⟩

end Course

/-! ## Sums of counts -/

section

variable {list : List Dispatched}

theorem countP_cons_toNat {α : Type} (holds : α → Bool) (first : α) (rest : List α) :
    (first :: rest).countP holds = rest.countP holds + (holds first).toNat := by
  rw [List.countP_cons]
  cases holds first <;> rfl

theorem length_eq_sum_ends (h : ∀ made ∈ list, made.Coherent) :
    list.length =
      list.countP (·.settledAs .txDone) + list.countP (·.settledAs .rxDone) +
        list.countP (·.settledAs .txTimeout) + list.countP (·.settledAs .rxTimeout) +
        list.countP (·.settledAs .rxError) + list.countP (·.endedBusy) +
        list.countP (·.unconfigured) := by
  induction list with
  | nil => rfl
  | cons made earlier ih =>
      have one := (h made List.mem_cons_self).one_end
      have rest := ih fun other hother => h other (List.mem_cons_of_mem _ hother)
      simp only [countP_cons_toNat, List.length_cons]
      omega

theorem countP_ignored_le (h : ∀ made ∈ list, made.Coherent) :
    list.countP (·.ignored) ≤ list.countP (·.endedBusy) := by
  apply List.countP_mono_left
  intro made hmade hignored
  exact (h made hmade).endedBusy_iff.mpr (.inl hignored)

theorem countP_misfit_le (list : List Dispatched) :
    list.countP (·.truncated) + list.countP (·.unbuffered) ≤
      list.countP (·.settledAs .rxDone) := by
  induction list with
  | nil => exact Nat.le_refl 0
  | cons made earlier ih =>
      have one := made.misfit_le
      simp only [countP_cons_toNat]
      omega

end

/-! ## The counters of a course -/

structure Counters.Account (counters : Counters) (list : List Dispatched) : Prop where
  dispatched : counters.dispatched.toNat = list.length
  txDone : counters.txDone.toNat = list.countP (·.settledAs .txDone)
  rxDone : counters.rxDone.toNat = list.countP (·.settledAs .rxDone)
  txTimeout : counters.txTimeout.toNat = list.countP (·.settledAs .txTimeout)
  rxTimeout : counters.rxTimeout.toNat = list.countP (·.settledAs .rxTimeout)
  rxError : counters.rxError.toNat = list.countP (·.settledAs .rxError)
  busy : counters.busy.toNat = list.countP (·.endedBusy)
  unconfigured : counters.unconfigured.toNat = list.countP (·.unconfigured)
  timerIgnored : counters.timerIgnored.toNat = list.countP (·.ignored)
  rxTruncated : counters.rxTruncated.toNat = list.countP (·.truncated)
  rxUnbuffered : counters.rxUnbuffered.toNat = list.countP (·.unbuffered)

theorem Counters.account_tally {list : List Dispatched} (few : list.length < UInt64.size) :
    (tally list).Account list := by
  have exact : ∀ holds : Dispatched → Bool,
      (UInt64.ofNat (list.countP holds)).toNat = list.countP holds := by
    intro holds
    have bounded := List.countP_le_length (p := holds) (l := list)
    exact UInt64.toNat_ofNat_of_lt (Nat.lt_of_le_of_lt bounded few)
  constructor
  · exact UInt64.toNat_ofNat_of_lt few
  all_goals exact exact _

/-- After every course with fewer dispatches than a word counts since the last reset, each counter
is the number of those dispatches that ended in its way.  Only dispatches and resets change a
counter. -/
theorem Course.counters_account (region : Bytes) (bench : Bench) (operations : List Operation)
    (few : (Entry.sinceReset ((start region bench).run operations).journal).length < UInt64.size) :
    let course := (start region bench).run operations
    let counters := course.dispatcher.counters
    let made := Entry.sinceReset course.journal
    counters.Account made ∧
    (∀ one ∈ made, one.endedBusy = true ↔
      one.ignored = true ∨ one.handler.isSome ∧ one.reports = []) ∧
    counters.dispatched.toNat =
      counters.txDone.toNat + counters.rxDone.toNat + counters.txTimeout.toNat +
        counters.rxTimeout.toNat + counters.rxError.toNat + counters.busy.toNat +
        counters.unconfigured.toNat ∧
    counters.timerIgnored ≤ counters.busy ∧
    counters.rxTruncated.toNat + counters.rxUnbuffered.toNat ≤ counters.rxDone.toNat ∧
    (∀ request, (course.register request).dispatcher.counters = counters) ∧
    (∀ {δ β ε : Type} [Driver δ β ε] (driver : δ) (board : β),
      (course.install driver board).dispatcher.counters = counters) ∧
    (∀ buffer, (course.setBuffer buffer).dispatcher.counters = counters) ∧
    course.takeBuffer.dispatcher.counters = counters ∧
    course.resetCounters.dispatcher.counters = {} := by
  intro course counters made
  have h : course.Tallied := invariant_tallied.run (tallied_start region bench) operations
  have account : counters.Account made := by
    rw [show counters = _ from h.counters]
    exact Counters.account_tally few
  refine ⟨account, ?_, ?_, ?_, ?_, fun _ => rfl, ?_, fun _ => rfl, rfl, rfl⟩
  · intro one hone
    exact (h.coherent one hone).endedBusy_iff
  · rw [account.dispatched, account.txDone, account.rxDone, account.txTimeout, account.rxTimeout,
      account.rxError, account.busy, account.unconfigured]
    exact length_eq_sum_ends h.coherent
  · rw [UInt64.le_iff_toNat_le, account.timerIgnored, account.busy]
    exact countP_ignored_le h.coherent
  · rw [account.rxTruncated, account.rxUnbuffered, account.rxDone]
    exact countP_misfit_le made
  · intro δ β ε _ driver board
    exact counters_install course driver board

theorem Course.counters_account_three :
    let probe : Script := { id := "probe", runs := [[.report .txDone, .report .rxError]] }
    let course := (start [] {}).run
      [.dispatch (.line 5), .resetCounters, .register (.line 2 probe.handler),
        .dispatch (.line 2), .dispatch (.line 3), .dispatch (.timer .timer1)]
    (Entry.sinceReset course.journal).length < UInt64.size ∧
      course.dispatcher.counters.dispatched.toNat = 3 ∧
      course.dispatcher.counters.txDone.toNat = 1 := by
  intro probe course
  have three : (Entry.sinceReset course.journal).length = 3 := rfl
  have few : (Entry.sinceReset course.journal).length < UInt64.size := by
    rw [three]
    decide
  have account := (counters_account [] {} _ few).1
  exact ⟨few, account.dispatched, account.txDone⟩

end RadioInterrupt
