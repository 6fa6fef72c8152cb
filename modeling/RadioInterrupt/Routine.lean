import RadioInterrupt.Bench

/-!
Routines: what one run of a handler does.

A routine is a tree of actions.  An action that learns something carries a continuation over what it
learns, so a routine can depend on everything that it sees and on nothing else.  The same routine
can report to any `ReportSink`; a dispatch is one sink and a plain list of reports is another.
-/

namespace RadioInterrupt

inductive Routine where
  | done
  | report (made : Report) (next : Routine)
  /-- Read the outcome of the operation in progress, where there is one to read. -/
  | look (next : Option Outcome → Routine)
  | post (sender : Nat) (event : Event) (next : PostAnswer → Routine)
  | note (entry : Note) (next : Routine)

class ReportSink (σ : Type) where
  accept : σ → Report → σ × List Message
  visible : σ → Option Outcome

instance : ReportSink (List Report) where
  accept reports report := (reports ++ [report], [])
  visible _ := none

namespace Routine

def run {σ : Type} [ReportSink σ] : Routine → σ → Bench → σ × Bench
  | .done, sink, bench => (sink, bench)
  | .report made next, sink, bench =>
      let (sink, messages) := ReportSink.accept sink made
      next.run sink (bench.say messages)
  | .look next, sink, bench => (next (ReportSink.visible sink)).run sink bench
  | .post sender event next, sink, bench =>
      let (answer, bench) := bench.post sender event
      (next answer).run sink bench
  | .note entry next, sink, bench => next.run sink (bench.note entry)

@[simp] theorem run_done {σ : Type} [ReportSink σ] (sink : σ) (bench : Bench) :
    done.run sink bench = (sink, bench) := rfl

@[simp] theorem run_report {σ : Type} [ReportSink σ] (made : Report) (next : Routine) (sink : σ)
    (bench : Bench) :
    (report made next).run sink bench =
      next.run (ReportSink.accept sink made).1
        (bench.say (ReportSink.accept sink made).2) := rfl

@[simp] theorem run_look {σ : Type} [ReportSink σ] (next : Option Outcome → Routine) (sink : σ)
    (bench : Bench) :
    (look next).run sink bench = (next (ReportSink.visible sink)).run sink bench := rfl

@[simp] theorem run_post {σ : Type} [ReportSink σ] (sender : Nat) (event : Event)
    (next : PostAnswer → Routine) (sink : σ) (bench : Bench) :
    (post sender event next).run sink bench =
      (next (bench.post sender event).1).run sink (bench.post sender event).2 := rfl

@[simp] theorem run_note {σ : Type} [ReportSink σ] (entry : Note) (next : Routine) (sink : σ)
    (bench : Bench) :
    (note entry next).run sink bench = next.run sink (bench.note entry) := rfl

end Routine

end RadioInterrupt
