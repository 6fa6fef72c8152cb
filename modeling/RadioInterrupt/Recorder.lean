import RadioInterrupt.Counters
import RadioInterrupt.FrameInfo
import RadioInterrupt.Inbox
import RadioInterrupt.Routine

/-!
The recorder: the part of a dispatcher that reports can change.

The first report of a dispatch settles its outcome, and a frame in it goes to the inbox.  Every
later report of the same dispatch is dropped, with its frame (`Recorder.accept_of_terminal`).
-/

namespace RadioInterrupt

structure Recorder where
  outcome : Outcome := .busy
  info : FrameInfo := {}
  inbox : Inbox := {}
  counters : Counters := {}
  deriving DecidableEq, Repr

namespace Recorder

def takeFrame (recorder : Recorder) (frame : Frame) : Recorder × List Message :=
  let (inbox, copy) := recorder.inbox.fill frame.payload
  let counters := recorder.counters
  let (counters, messages) : Counters × List Message := match copy with
    | none =>
        ({ counters with rxUnbuffered := counters.rxUnbuffered + 1 },
          [.frameUnbuffered frame.payload.length])
    | some copy =>
        if copy.truncated then
          ({ counters with rxTruncated := counters.rxTruncated + 1 },
            [.frameTruncated copy.copied copy.received])
        else (counters, [])
  ({ outcome := .rxDone, info := .ofFrame frame, inbox, counters }, messages)

/-- Takes a report: the first one settles the dispatch, and a later one is dropped. -/
def accept (recorder : Recorder) (report : Report) : Recorder × List Message :=
  if recorder.outcome.isTerminal then
    (recorder, [.keptFirst report.outcome recorder.outcome])
  else match report with
    | .rxDone frame => recorder.takeFrame frame
    | other => ({ recorder with outcome := other.outcome }, [])

instance : ReportSink Recorder where
  accept := accept
  visible recorder := some recorder.outcome

@[simp] theorem sink_accept (recorder : Recorder) (report : Report) :
    ReportSink.accept recorder report = recorder.accept report := rfl

@[simp] theorem sink_visible (recorder : Recorder) :
    ReportSink.visible recorder = some recorder.outcome := rfl

theorem accept_of_terminal {recorder : Recorder} (h : recorder.outcome.isTerminal = true)
    (report : Report) :
    recorder.accept report = (recorder, [.keptFirst report.outcome recorder.outcome]) := by
  simp [accept, h]

theorem outcome_accept_of_busy {recorder : Recorder} (h : recorder.outcome = .busy)
    (report : Report) : (recorder.accept report).1.outcome = report.outcome := by
  cases report <;> simp [accept, h, takeFrame, Report.outcome]

end Recorder

end RadioInterrupt
