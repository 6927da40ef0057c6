import RouteAudit.Change
import RouteAudit.Database
import RouteAudit.Json.Value
import RouteAudit.LogEvent
import RouteAudit.Store

/-!
# Programs

A check is a program that asks its surroundings for rows, changes and the time, and goes on
with the answers.  Here it is a tree of requests: what a program does is seen in the tree,
and what the answers are is decided by whoever runs it.
-/

namespace RouteAudit

inductive Request where
  /-- Writes a log event. -/
  | log (event : LogEvent)
  /-- Moves to a stage; the answer is the stage that is left. -/
  | enter (stage : Stage)
  /-- The time that is left until the deadline. -/
  | remaining
  /-- The keys of a database that match a pattern. -/
  | keys (site : String) (db : Database) (pattern : String)
  /-- The fields of a row; there are none if the row does not exist. -/
  | row (site : String) (db : Database) (key : String)
  /-- Subscribes to the changes of the programmed routes. -/
  | subscribe (site : String)
  /-- Collects the changes that arrive within a window. -/
  | drain (site : String) (window : Time)
  /-- The routes of a routing daemon. -/
  | fetch (daemon : Nat)
  /-- Waits; a cancellation during the wait is reported for the stage. -/
  | pause (duration : Time) (stage : Stage)

abbrev Request.Answer : Request → Type
  | .log _ => Unit
  | .enter _ => Stage
  | .remaining => Time
  | .keys _ _ _ => List String
  | .row _ _ _ => Fields
  | .subscribe _ => Unit
  | .drain _ _ => Drained
  | .fetch _ => List Json
  | .pause _ _ => Unit

inductive Program (α : Type) where
  | done (a : α)
  | fail (f : Failure)
  | ask (q : Request) (next : q.Answer → Program α)

namespace Program

variable {α β : Type}

def bind : Program α → (α → Program β) → Program β
  | .done a, f => f a
  | .fail e, _ => .fail e
  | .ask q next, f => .ask q fun answer => (next answer).bind f

instance : Monad Program where
  pure := .done
  bind := Program.bind

theorem bind_done (p : Program α) : p.bind .done = p := by
  induction p with
  | done a => rfl
  | fail e => rfl
  | ask q next ih =>
      simp only [bind]
      congr
      funext answer
      exact ih answer

theorem bind_bind {γ : Type} (p : Program α) (f : α → Program β) (g : β → Program γ) :
    (p.bind f).bind g = p.bind fun a => (f a).bind g := by
  induction p with
  | done a => rfl
  | fail e => rfl
  | ask q next ih =>
      simp only [bind]
      congr
      funext answer
      exact ih answer

instance : LawfulMonad Program :=
  LawfulMonad.mk' Program bind_done (fun _ _ => rfl) bind_bind

/-!
# Requests as programs
-/

def request (q : Request) : Program q.Answer := .ask q .done

def log (event : LogEvent) : Program Unit := request (.log event)

def logAll : List LogEvent → Program Unit
  | [] => .done ()
  | event :: rest => .ask (.log event) fun _ => logAll rest

/-- Writes the events of a result and goes on with the result. -/
def ofLogged (x : Logged α) : Program α :=
  (logAll x.events).bind fun _ => .done x.value

def ofAttempt : Attempt α → Program α
  | .ok a => .done a
  | .error f => .fail f

def enter (stage : Stage) : Program Unit := do
  let left ← request (.enter stage)
  log (.debug "Stage transition" [("from", Stage.name left), ("to", stage.name)])

/-- The events of a program are within a span. -/
def within (span : Span) : Program α → Program α
  | .done a => .done a
  | .fail f => .fail f
  | .ask (.log event) next =>
      .ask (.log { event with scope := span :: event.scope }) fun answer =>
        (next answer).within span
  | .ask q next => .ask q fun answer => (next answer).within span

/-!
# Tables

A table is read by listing its keys and then reading the rows in the order of their keys.
-/

def keysOf (site : String) (db : Database) (start : String) : Program (List String) :=
  request (.keys site db (start ++ "*"))

/-- The key of a row without its table. -/
def shortKey (start key : String) : String :=
  match Text.after? start.toList key.toList with
  | some short => String.ofList short
  | none => key

def readRow (site : String) (db : Database) (start key : String) : Program Row := do
  let fields ← request (.row site db key)
  return ⟨shortKey start key, fields⟩

def scan (site : String) (db : Database) (table : String) : Program (List Row) := do
  let start := db.tableStart table
  let keys ← keysOf site db start
  (keys.mergeSort fun a b => a ≤ b).mapM (readRow site db start)

def entry (site : String) (db : Database) (table key : String) : Program Fields :=
  request (.row site db (db.tableStart table ++ key))

end Program
end RouteAudit
