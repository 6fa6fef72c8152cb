import RadioInterrupt.Proofs.Course
import RadioInterrupt.Script

/-!
# The description of the last accepted frame

A dispatch accepts a frame when its first report is that of a frame, and describes it whether or not
there is a buffer for its bytes.  The description stays until a dispatch accepts another frame: the
last accepted frame of the journal determines it.
-/

namespace RadioInterrupt

namespace Entry

def frame? : Entry → Option Frame
  | .dispatched made => made.accepted
  | _ => none

def lastFrame (journal : List Entry) : Option Frame :=
  journal.findSome? frame?

theorem lastFrame_cons (entry : Entry) (journal : List Entry) :
    lastFrame (entry :: journal) = entry.frame?.or (lastFrame journal) := by
  rw [lastFrame, List.findSome?_cons]
  cases entry.frame? <;> rfl

theorem lastFrame_append {later : List Entry} (h : ∀ entry ∈ later, entry.frame? = none)
    (journal : List Entry) : lastFrame (later ++ journal) = lastFrame journal := by
  rw [lastFrame, List.findSome?_append, List.findSome?_eq_none_iff.mpr h]
  rfl

end Entry

theorem Dispatched.accepted_of_head {made : Dispatched} {frame : Frame}
    (h : made.reports.head? = some (.rxDone frame)) : made.accepted = some frame := by
  simp [accepted, h, Report.frame?]

namespace Dispatcher

variable {dispatcher : Dispatcher} {event : Event} {bench : Bench}

theorem info_dispatch_of_frame {frame : Frame}
    (h : (dispatcher.reports event bench).head? = some (.rxDone frame)) :
    (dispatcher.dispatch event bench).dispatcher.info = .ofFrame frame := by
  simp [info_dispatch, accepted, h, Report.frame?]

theorem info_dispatch_of_other
    (h : ∀ frame, (dispatcher.reports event bench).head? ≠ some (.rxDone frame)) :
    (dispatcher.dispatch event bench).dispatcher.info = dispatcher.info := by
  rw [info_dispatch, accepted]
  cases first : (dispatcher.reports event bench).head? with
  | none => rfl
  | some report =>
      cases report with
      | rxDone frame => exact absurd first (h frame)
      | txDone | txTimeout | rxTimeout | rxError => rfl

end Dispatcher

namespace Course

theorem info_install {δ β ε : Type} [Driver δ β ε] (course : Course) (driver : δ) (board : β) :
    (course.install driver board).dispatcher.info = course.dispatcher.info := by
  change (course.dispatcher.install driver board course.bench).dispatcher.info = _
  rw [Dispatcher.dispatcher_install]
  rfl

def DescribesLast (course : Course) : Prop :=
  course.dispatcher.info = (Entry.lastFrame course.journal).elim {} FrameInfo.ofFrame

theorem invariant_describesLast : Invariant DescribesLast where
  register course request h := h
  install course driver board h := by
    rw [DescribesLast, info_install]
    exact h
  setBuffer course buffer h := h
  takeBuffer course h := h
  resetCounters course h := h
  dispatch course event h := by
    change (course.dispatcher.dispatch event course.bench).dispatcher.info =
      (Entry.lastFrame (.dispatched _ :: course.journal)).elim {} FrameInfo.ofFrame
    rw [Dispatcher.info_dispatch, Entry.lastFrame_cons]
    -- The journal has the frame that the dispatcher accepted, or goes back to an earlier one.
    change (course.dispatcher.accepted event course.bench).elim _ _ =
      ((course.dispatcher.accepted event course.bench).or _).elim _ _
    cases course.dispatcher.accepted event course.bench with
    | none => exact h
    | some frame => rfl
  arrange course change h := h

/-- After every course the description is that of the frame of the last dispatch whose first report
was a frame: its length up to the largest word, and its link figures.  It is blank before there was
one.  Nothing but such a dispatch changes it. -/
theorem info_describes_last_frame (region : Bytes) (bench : Bench)
    (operations : List Operation) :
    let course := (start region bench).run operations
    let info := course.dispatcher.info
    (∀ later made earlier frame, course.journal = later ++ .dispatched made :: earlier →
      made.reports.head? = some (.rxDone frame) → (∀ entry ∈ later, entry.frame? = none) →
      info.length.toNat = min frame.payload.length 65535 ∧ info.rssi = frame.rssi ∧
        info.snr = frame.snr) ∧
    ((∀ entry ∈ course.journal, entry.frame? = none) →
      info.length = 0 ∧ info.rssi = 0 ∧ info.snr = 0) ∧
    (∀ event frame rest,
      course.dispatcher.reports event course.bench = .rxDone frame :: rest →
      (course.dispatch event).dispatcher.info = .ofFrame frame) ∧
    (∀ event,
      (∀ frame, (course.dispatcher.reports event course.bench).head? ≠ some (.rxDone frame)) →
      (course.dispatch event).dispatcher.info = info) ∧
    (∀ request, (course.register request).dispatcher.info = info) ∧
    (∀ {δ β ε : Type} [Driver δ β ε] (driver : δ) (board : β),
      (course.install driver board).dispatcher.info = info) ∧
    (∀ buffer, (course.setBuffer buffer).dispatcher.info = info) ∧
    course.takeBuffer.dispatcher.info = info ∧
    course.resetCounters.dispatcher.info = info := by
  intro course info
  have fresh : (start region bench).DescribesLast := rfl
  have h : info = (Entry.lastFrame course.journal).elim {} FrameInfo.ofFrame :=
    invariant_describesLast.run fresh operations
  refine ⟨?_, ?_, ?_, ?_, fun _ => rfl, ?_, fun _ => rfl, rfl, rfl⟩
  · intro later made earlier frame hjournal first silent
    have last : Entry.lastFrame course.journal = some frame := by
      rw [hjournal, Entry.lastFrame_append silent, Entry.lastFrame_cons, Entry.frame?,
        Dispatched.accepted_of_head first]
      rfl
    rw [h, last]
    exact ⟨FrameInfo.toNat_clampLength _, rfl, rfl⟩
  · intro silent
    have none : Entry.lastFrame course.journal = none := List.findSome?_eq_none_iff.mpr silent
    rw [h, none]
    exact ⟨rfl, rfl, rfl⟩
  · intro event frame rest heard
    apply Dispatcher.info_dispatch_of_frame
    rw [heard]
    rfl
  · intro event other
    exact Dispatcher.info_dispatch_of_other other
  · intro δ β ε _ driver board
    exact info_install course driver board

theorem info_describes_last_frame_unbuffered :
    let probe : Script := { id := "probe", runs :=
      [[.report (.rxDone ⟨[1, 2, 3], -80, 7⟩), .report (.rxDone ⟨[], 0, 0⟩)],
        [.report .rxTimeout, .report (.rxDone ⟨[9], 1, 1⟩)]] }
    let course := (start [] {}).run
      [.register (.line 2 probe.handler), .dispatch (.line 2), .resetCounters,
        .setBuffer (.owned [0]), .dispatch (.line 2)]
    course.dispatcher.info.length.toNat = 3 ∧ course.dispatcher.info.rssi = -80 ∧
      course.dispatcher.info.snr = 7 ∧ (start [] {}).dispatcher.info.length = 0 := by
  intro probe course
  obtain ⟨described, -⟩ := info_describes_last_frame [] {}
    [.register (.line 2 probe.handler), .dispatch (.line 2), .resetCounters,
      .setBuffer (.owned [0]), .dispatch (.line 2)]
  obtain ⟨-, blank, -⟩ := info_describes_last_frame [] {} []
  have silent : ∀ entry ∈ course.journal.take 3, entry.frame? = none := by
    have all : (course.journal.take 3).all (·.frame?.isNone) = true := rfl
    simpa using List.all_eq_true.mp all
  have three := described (course.journal.take 3) _ (course.journal.drop 4) ⟨[1, 2, 3], -80, 7⟩
    rfl rfl silent
  exact ⟨three.1, three.2.1, three.2.2, (blank (List.forall_mem_nil _)).1⟩

end Course

end RadioInterrupt
