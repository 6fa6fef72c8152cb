import RadioInterrupt.Recorder

/-!
# The reports of a run

A routine chooses its reports while it runs, from what it sees and from the answers to its posts.
`Routine.reports` lists what one run reports.  A recorder that is not settled yet takes the first
report of a run and no other, and the bench gets one notice for each report that is dropped.
`Routine.keepFirst` leaves those reports out beforehand, and nothing but the notices is missing.
-/

namespace RadioInterrupt

/-! ## Listing the reports -/

structure Tap (σ : Type) where
  sink : σ
  heard : List Report := []

instance {σ : Type} [ReportSink σ] : ReportSink (Tap σ) where
  accept tap report :=
    (⟨(ReportSink.accept tap.sink report).1, tap.heard ++ [report]⟩,
      (ReportSink.accept tap.sink report).2)
  visible tap := ReportSink.visible tap.sink

namespace Routine

variable {σ : Type} [ReportSink σ]

/-- What a run of the routine reports, in order. -/
def reports (routine : Routine) (sink : σ) (bench : Bench) : List Report :=
  (routine.run (Tap.mk sink []) bench).1.heard

private theorem heard_run_tap (routine : Routine) (sink : σ) (heard : List Report)
    (bench : Bench) :
    (routine.run (Tap.mk sink heard) bench).1.heard = heard ++ routine.reports sink bench := by
  induction routine generalizing sink heard bench with
  | done => simp [reports]
  | report made next ih =>
      have later := ih (ReportSink.accept sink made).1
      rw [reports, run_report, run_report]
      change (next.run (Tap.mk _ (heard ++ [made])) _).1.heard =
        heard ++ (next.run (Tap.mk _ ([] ++ [made])) _).1.heard
      rw [later, later, List.nil_append, List.append_assoc]
      rfl
  | look next ih => exact ih (ReportSink.visible sink) sink heard bench
  | post sender event next ih =>
      exact ih (bench.post sender event).1 sink heard (bench.post sender event).2
  | note entry next ih => exact ih sink heard (bench.note entry)

theorem run_tap (routine : Routine) (sink : σ) (heard : List Report) (bench : Bench) :
    routine.run (Tap.mk sink heard) bench =
      (⟨(routine.run sink bench).1, heard ++ routine.reports sink bench⟩,
        (routine.run sink bench).2) := by
  have same : (routine.run (Tap.mk sink heard) bench).1.sink = (routine.run sink bench).1 ∧
      (routine.run (Tap.mk sink heard) bench).2 = (routine.run sink bench).2 := by
    induction routine generalizing sink heard bench with
    | done => exact ⟨rfl, rfl⟩
    | report made next ih => exact ih (ReportSink.accept sink made).1 (heard ++ [made]) _
    | look next ih => exact ih (ReportSink.visible sink) sink heard bench
    | post sender event next ih => exact ih (bench.post sender event).1 sink heard _
    | note entry next ih => exact ih sink heard (bench.note entry)
  have listed := heard_run_tap routine sink heard bench
  generalize routine.run (Tap.mk sink heard) bench = tapped at same listed ⊢
  obtain ⟨⟨left, list⟩, rest⟩ := tapped
  obtain ⟨rfl, rfl⟩ := same
  cases listed
  rfl

@[simp] theorem reports_done (sink : σ) (bench : Bench) : done.reports sink bench = [] := rfl

@[simp] theorem reports_report (made : Report) (next : Routine) (sink : σ) (bench : Bench) :
    (report made next).reports sink bench =
      made :: next.reports (ReportSink.accept sink made).1
        (bench.say (ReportSink.accept sink made).2) :=
  heard_run_tap next (ReportSink.accept sink made).1 [made] _

@[simp] theorem reports_look (next : Option Outcome → Routine) (sink : σ) (bench : Bench) :
    (look next).reports sink bench = (next (ReportSink.visible sink)).reports sink bench := rfl

@[simp] theorem reports_post (sender : Nat) (event : Event) (next : PostAnswer → Routine)
    (sink : σ) (bench : Bench) :
    (post sender event next).reports sink bench =
      (next (bench.post sender event).1).reports sink (bench.post sender event).2 := rfl

@[simp] theorem reports_note (entry : Note) (next : Routine) (sink : σ) (bench : Bench) :
    (note entry next).reports sink bench = next.reports sink (bench.note entry) := rfl

end Routine

/-! ## The recorder that a run leaves -/

namespace Recorder

def settle (recorder : Recorder) (first : Option Report) : Recorder :=
  first.elim recorder fun report => (recorder.accept report).1

@[simp] theorem settle_none (recorder : Recorder) : recorder.settle none = recorder := rfl

@[simp] theorem settle_some (recorder : Recorder) (report : Report) :
    recorder.settle (some report) = (recorder.accept report).1 := rfl

theorem isTerminal_accept_of_busy {recorder : Recorder} (h : recorder.outcome = .busy)
    (report : Report) : (recorder.accept report).1.outcome.isTerminal = true := by
  rw [outcome_accept_of_busy h]
  exact report.isTerminal_outcome

theorem run_of_terminal {recorder : Recorder} (h : recorder.outcome.isTerminal = true)
    (routine : Routine) (bench : Bench) : (routine.run recorder bench).1 = recorder := by
  induction routine generalizing bench with
  | done => rfl
  | report made next ih =>
      rw [Routine.run_report, sink_accept, accept_of_terminal h]
      exact ih _
  | look next ih => exact ih (ReportSink.visible recorder) bench
  | post sender event next ih => exact ih (bench.post sender event).1 _
  | note entry next ih => exact ih (bench.note entry)

theorem run_of_busy {recorder : Recorder} (h : recorder.outcome = .busy) (routine : Routine)
    (bench : Bench) :
    (routine.run recorder bench).1 = recorder.settle (routine.reports recorder bench).head? := by
  induction routine generalizing bench with
  | done => rfl
  | report made next ih =>
      rw [Routine.run_report, Routine.reports_report, List.head?_cons, settle_some, sink_accept]
      exact run_of_terminal (isTerminal_accept_of_busy h made) next _
  | look next ih => exact ih (ReportSink.visible recorder) bench
  | post sender event next ih => exact ih (bench.post sender event).1 _
  | note entry next ih => exact ih (bench.note entry)

end Recorder

/-! ## Notices of dropped reports -/

def Message.isDropNotice : Message → Bool
  | .keptFirst .. => true
  | _ => false

def dropNotices : List Report → List Message
  | [] => []
  | kept :: dropped => dropped.map fun report => .keptFirst report.outcome kept.outcome

theorem level_dropNotices (reports : List Report) :
    (dropNotices reports).map Message.level = List.replicate (reports.length - 1) .warn := by
  cases reports with
  | nil => rfl
  | cons kept dropped =>
      rw [dropNotices, List.map_map]
      exact List.map_const'

namespace Bench

def notices (bench : Bench) : List Message :=
  bench.log.filter Message.isDropNotice

def withoutNotices (bench : Bench) : Bench :=
  { bench with log := bench.log.filter (!Message.isDropNotice ·) }

@[simp] theorem say_nil (bench : Bench) : bench.say [] = bench := by
  simp [say]

@[simp] theorem notices_say (bench : Bench) (messages : List Message) :
    (bench.say messages).notices = bench.notices ++ messages.filter Message.isDropNotice := by
  simp [notices]

@[simp] theorem notices_note (bench : Bench) (entry : Note) :
    (bench.note entry).notices = bench.notices := rfl

@[simp] theorem notices_setChip (bench : Bench) (number : Nat) (chip : Chip) :
    (bench.setChip number chip).notices = bench.notices := rfl

@[simp] theorem notices_post (bench : Bench) (sender : Nat) (event : Event) :
    (bench.post sender event).2.notices = bench.notices := by
  unfold post
  split
  · rfl
  · split
    · split
      · rfl
      · next refusal queue _ =>
          rw [notices_say]
          cases refusal <;> exact List.append_nil _
    · rfl

@[simp] theorem withoutNotices_say (bench : Bench) (messages : List Message) :
    (bench.say messages).withoutNotices =
      bench.withoutNotices.say (messages.filter (!Message.isDropNotice ·)) := by
  simp [withoutNotices, say]

@[simp] theorem withoutNotices_note (bench : Bench) (entry : Note) :
    (bench.note entry).withoutNotices = bench.withoutNotices.note entry := rfl

theorem post_withoutNotices (bench : Bench) (sender : Nat) (event : Event) :
    bench.withoutNotices.post sender event =
      ((bench.post sender event).1, (bench.post sender event).2.withoutNotices) := by
  cases hqueue : bench.queue with
  | none => simp [post, hqueue, withoutNotices]
  | some queue =>
      cases hlive : queue.isLive sender with
      | false => simp [post, hqueue, hlive, withoutNotices]
      | true =>
          have hsame : bench.withoutNotices.queue = some queue := hqueue
          unfold post
          simp only [hqueue, hsame, hlive, if_true]
          generalize queue.post event = posted
          obtain ⟨result, queue⟩ := posted
          cases result with
          | ok _ => rfl
          | error refusal =>
              simp only [withoutNotices_say]
              cases refusal <;> rfl

theorem post_congr {bench other : Bench} (same : other.withoutNotices = bench.withoutNotices)
    (sender : Nat) (event : Event) :
    (other.post sender event).1 = (bench.post sender event).1 ∧
      (other.post sender event).2.withoutNotices =
        (bench.post sender event).2.withoutNotices := by
  have posted := post_withoutNotices other sender event
  rw [same, post_withoutNotices bench sender event, Prod.mk.injEq] at posted
  exact ⟨posted.1.symm, posted.2.symm⟩

end Bench

namespace Recorder

theorem filter_accept_of_busy {recorder : Recorder} (h : recorder.outcome = .busy)
    (report : Report) : (recorder.accept report).2.filter Message.isDropNotice = [] := by
  cases report with
  | rxDone frame =>
      cases hcopy : (recorder.inbox.fill frame.payload).2 with
      | none => simp [accept, h, takeFrame, hcopy, Message.isDropNotice]
      | some copy =>
          cases hcut : copy.truncated <;>
            simp [accept, h, takeFrame, hcopy, hcut, Message.isDropNotice]
  | txDone | txTimeout | rxTimeout | rxError => simp [accept, h]

theorem notices_run_of_terminal {recorder : Recorder} (h : recorder.outcome.isTerminal = true)
    (routine : Routine) (bench : Bench) :
    (routine.run recorder bench).2.notices = bench.notices ++
      (routine.reports recorder bench).map fun report =>
        .keptFirst report.outcome recorder.outcome := by
  induction routine generalizing bench with
  | done => simp
  | report made next ih =>
      rw [Routine.run_report, Routine.reports_report, sink_accept, accept_of_terminal h, ih,
        Bench.notices_say, List.map_cons, List.append_assoc]
      rfl
  | look next ih => exact ih (ReportSink.visible recorder) bench
  | post sender event next ih =>
      rw [Routine.run_post, Routine.reports_post, ih, Bench.notices_post]
  | note entry next ih => exact ih (bench.note entry)

theorem notices_run_of_busy {recorder : Recorder} (h : recorder.outcome = .busy)
    (routine : Routine) (bench : Bench) :
    (routine.run recorder bench).2.notices =
      bench.notices ++ dropNotices (routine.reports recorder bench) := by
  induction routine generalizing bench with
  | done => simp [dropNotices]
  | report made next ih =>
      rw [Routine.run_report, Routine.reports_report, sink_accept,
        notices_run_of_terminal (isTerminal_accept_of_busy h made), Bench.notices_say,
        filter_accept_of_busy h, List.append_nil, dropNotices, outcome_accept_of_busy h]
  | look next ih => exact ih (ReportSink.visible recorder) bench
  | post sender event next ih =>
      rw [Routine.run_post, Routine.reports_post, ih, Bench.notices_post]
  | note entry next ih => exact ih (bench.note entry)

end Recorder

/-! ## Leaving out what will be dropped -/

namespace Routine

def mute : Routine → Routine
  | .done => .done
  | .report _ next => next.mute
  | .look next => .look fun seen => (next seen).mute
  | .post sender event next => .post sender event fun answer => (next answer).mute
  | .note entry next => .note entry next.mute

/-- The routine without its reports after the first. -/
def keepFirst : Routine → Routine
  | .done => .done
  | .report made next => .report made next.mute
  | .look next => .look fun seen => (next seen).keepFirst
  | .post sender event next => .post sender event fun answer => (next answer).keepFirst
  | .note entry next => .note entry next.keepFirst

theorem reports_mute {σ : Type} [ReportSink σ] (routine : Routine) (sink : σ) (bench : Bench) :
    routine.mute.reports sink bench = [] := by
  induction routine generalizing bench with
  | done => rfl
  | report made next ih => exact ih bench
  | look next ih => exact ih (ReportSink.visible sink) bench
  | post sender event next ih => exact ih (bench.post sender event).1 _
  | note entry next ih => exact ih (bench.note entry)

theorem reports_keepFirst {σ : Type} [ReportSink σ] (routine : Routine) (sink : σ)
    (bench : Bench) :
    routine.keepFirst.reports sink bench = (routine.reports sink bench).take 1 := by
  induction routine generalizing bench with
  | done => rfl
  | report made next ih =>
      rw [keepFirst, reports_report, reports_report, reports_mute]
      rfl
  | look next ih => exact ih (ReportSink.visible sink) bench
  | post sender event next ih => exact ih (bench.post sender event).1 _
  | note entry next ih => exact ih (bench.note entry)

theorem run_mute {recorder : Recorder} (h : recorder.outcome.isTerminal = true)
    (routine : Routine) {bench other : Bench}
    (same : other.withoutNotices = bench.withoutNotices) :
    (routine.mute.run recorder other).2.withoutNotices =
      (routine.run recorder bench).2.withoutNotices := by
  induction routine generalizing bench other with
  | done => exact same
  | report made next ih =>
      rw [run_report, Recorder.sink_accept, Recorder.accept_of_terminal h]
      apply ih
      rw [Bench.withoutNotices_say, same]
      exact (Bench.say_nil _).symm
  | look next ih => exact ih (ReportSink.visible recorder) same
  | post sender event next ih =>
      obtain ⟨answer, rest⟩ := Bench.post_congr same sender event
      rw [mute, run_post, run_post, answer]
      exact ih (bench.post sender event).1 rest
  | note entry next ih =>
      apply ih
      rw [Bench.withoutNotices_note, Bench.withoutNotices_note, same]

theorem run_keepFirst {recorder : Recorder} (h : recorder.outcome = .busy) (routine : Routine)
    (bench : Bench) :
    (routine.keepFirst.run recorder bench).1 = (routine.run recorder bench).1 ∧
      (routine.keepFirst.run recorder bench).2.withoutNotices =
        (routine.run recorder bench).2.withoutNotices := by
  induction routine generalizing bench with
  | done => exact ⟨rfl, rfl⟩
  | report made next ih =>
      have settled := Recorder.isTerminal_accept_of_busy h made
      constructor
      · rw [keepFirst, run_report, run_report, Recorder.sink_accept,
          Recorder.run_of_terminal settled, Recorder.run_of_terminal settled]
      · exact run_mute settled next rfl
  | look next ih => exact ih (ReportSink.visible recorder) bench
  | post sender event next ih => exact ih (bench.post sender event).1 _
  | note entry next ih => exact ih (bench.note entry)

end Routine

end RadioInterrupt
