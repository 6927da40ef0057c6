import RouteAudit.World

/-!
# The watchdog

A watched run starts in the idle stage with a time limit.  It ends in its own result, or,
whatever comes first, in a timeout at its deadline or in a cancellation by the shutdown of
the whole checker; the failure names the stage in which the run then stood.
-/

namespace RouteAudit
namespace World

def interruptedEvent (stage : Stage) : LogEvent :=
  .warn "Check cycle interrupted by shutdown" [("stage", stage.name)]

def overdueEvent (stage : Stage) (limit : Time) : LogEvent :=
  .error "Check cycle exceeded its deadline, abandoning"
    [("stage", stage.name), ("timeout_secs", toString (limit / 1000))]

/-- The failure of a run that was stopped. -/
def conclude {α : Type} (limit : Time) : Except Stop α × World → Attempt α × World
  | (.ok a, w) => (.ok a, w)
  | (.error (.failed f), w) => (.error f, w)
  | (.error .cancelled, w) =>
      (.error (.cancelled w.stage), w.note (interruptedEvent w.stage))
  | (.error .overdue, w) =>
      (.error (.timeout w.stage limit),
        { w with abandoned := true }.note (overdueEvent w.stage limit))

/-- Begins a run in a context of its own. -/
def watch (limit : Time) (w : World) : World :=
  { w with watched := true, deadline := w.now + limit, stage := .idle, abandoned := false }

/-- Runs a program under the watchdog.  After a shutdown it is not begun. -/
def bounded {α : Type} (limit : Time) (p : Program α) (w : World) : Attempt α × World :=
  let w := w.watch limit
  conclude limit (if w.isCancelled then (.error .cancelled, w) else w.run p)

/-- Runs a program that nothing stops; its deadline is only what it is told of. -/
def unbounded {α : Type} (limit : Time) (p : Program α) (w : World) : Attempt α × World :=
  conclude limit ({ w.watch limit with watched := false }.run p)

end World
end RouteAudit
