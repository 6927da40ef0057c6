import RouteAudit.Cycle
import RouteAudit.Watchdog

/-!
# Scheduled checks

A schedule makes one check, or checks again and again with an interval between the end of
one and the start of the next, until the checker is shut down.  Every check runs under the
watchdog and is reported; its verdict is whether it passed, and the verdict of the schedule
is the last one.
-/

namespace RouteAudit

structure Schedule where
  /-- The interval in seconds; without one a single check is made. -/
  interval : Option Nat
  /-- The time limit of a check. -/
  limit : Time
  mode : Mode

namespace Schedule

def span : Span := ⟨"run_once", []⟩

/-!
# One check
-/

/-- An event of a check, of the watchdog or of the report. -/
def inSpan (event : LogEvent) : LogEvent :=
  { event with scope := span :: event.scope }

def noteAll (events : List LogEvent) (w : World) : World :=
  (events.map inSpan).foldl World.note w

/-- Puts the events of a check behind those that were logged before it. -/
def joinLog (before : World) (after : World) : World :=
  { after with logged := after.logged.map inSpan ++ before.logged }

def report (s : Schedule) (r : Report) (w : World) : World :=
  let w := noteAll (r.events s.mode none) w
  { w with output := w.output ++ (r.written s.mode).getD "" }

def runOnce (s : Schedule) (check : Program Report) (w : World) : Bool × World :=
  let (result, after) := World.bounded s.limit check { w with logged := [] }
  let after := joinLog w after
  match result with
  | .ok r => (r.passed, s.report r after)
  | .error f => (false, noteAll [f.event] after)

/-!
# Repeated checks

A checker makes one check after another, and need not do the same in each of them.
-/

/-- The checks of a checker, by their numbers. -/
abbrev Checker := Nat → Program Report

namespace Checker

def first (c : Checker) : Program Report := c 0

def rest (c : Checker) : Checker := fun n => c (n + 1)

end Checker

def scheduledEvent (interval : Nat) : LogEvent :=
  .info "Next check scheduled" [("interval_secs", toString interval)]

def stoppedEvent : LogEvent := .info "Shutdown requested, stopping" []

/-- How the wait for the next check ends: in the shutdown, or with its start. -/
inductive Awaited where
  | stopped (w : World)
  | resumed (w : World)

/-- Waits for the next check, unless the checker is shut down before it. -/
def awaitNext (interval : Nat) (w : World) : Awaited :=
  if w.isCancelled then
    .stopped w
  else
    let w := w.note (scheduledEvent interval)
    let next := w.now + interval * 1000
    match w.cancelAt.filter (· ≤ next) with
    | some shutdown => .stopped ((w.advance shutdown).note stoppedEvent)
    | none => .resumed (w.advance next)

/-- Makes checks until the shutdown; the fuel bounds their number. -/
def repeated (s : Schedule) (interval : Nat) : Nat → Checker → World → Option (Bool × World)
  | 0, _, _ => none
  | fuel + 1, checks, w =>
      let (passed, w) := s.runOnce checks.first w
      match awaitNext interval w with
      | .stopped w => some (passed, w)
      | .resumed w => s.repeated interval fuel checks.rest w

/-- More checks than fit before the shutdown, if time passes from one to the next. -/
def enough (w : World) : Nat :=
  match w.cancelAt with
  | some shutdown => shutdown - w.now + 2
  | none => 0

/-- Runs the schedule; repeated checks without a shutdown have no end. -/
def runAll (s : Schedule) (checks : Checker) (w : World) : Option (Bool × World) :=
  match s.interval with
  | none => some (s.runOnce checks.first w)
  | some interval => s.repeated interval (enough w) checks w

/-- Runs the schedule of a checker that makes the same check every time. -/
def run (s : Schedule) (check : Program Report) (w : World) : Option (Bool × World) :=
  s.runAll (fun _ => check) w

end Schedule
end RouteAudit
