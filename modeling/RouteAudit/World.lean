import RouteAudit.Endpoint
import RouteAudit.Program

/-!
# Running programs

A world is what a program runs in: a clock, the databases of the namespaces, the feeds that
are open, the routing daemons, what happens from outside, and what limits the run.  The
clock moves only while the program waits.

Two things limit a run.  A run that is watched is stopped while it waits, by a cancellation
or when its deadline has passed.  A run that is not watched notices a cancellation when it
enters a stage and in pauses.
-/

namespace RouteAudit

/-- The databases of a namespace: in memory, or behind an address where no server answers. -/
inductive Site where
  | memory (store : Store)
  | remote (settings : DatabaseSettings) (reason : String)

/-- One read of a routing daemon. -/
abbrev DaemonRead := Attempt (List Json)

/-- A change of a store that happens at a set time. -/
structure OutsideChange where
  time : Time
  site : String
  change : Store → Store

structure World where
  now : Time := 0
  sites : Table Site := .empty
  feeds : Table Feed := .empty
  /-- Changes from outside that are still to come, in the order of their times. -/
  outside : List OutsideChange := []
  /-- The reads that each daemon still answers; the last one repeats. -/
  daemons : List (List DaemonRead) := []
  /-- The daemons asked, the last one first. -/
  asked : List Nat := []
  watched : Bool := false
  deadline : Time := 0
  /-- When the whole checker is told to shut down. -/
  cancelAt : Option Time := none
  /-- Whether the watchdog has cancelled the context of the run, which it abandoned. -/
  abandoned : Bool := false
  stage : Stage := .idle
  /-- The stages entered, the last one first. -/
  entered : List Stage := []
  /-- The events logged, the last one first. -/
  logged : List LogEvent := []
  output : String := ""

/-- Why a run has no result. -/
inductive Stop where
  | failed (f : Failure)
  | cancelled
  | overdue
  deriving DecidableEq, Repr

namespace World

def note (w : World) (event : LogEvent) : World :=
  { w with logged := event :: w.logged }

def events (w : World) : List LogEvent := w.logged.reverse

/-!
# Stores

A site that was never used is an empty store.
-/

def site (w : World) (name : String) : Site :=
  (w.sites.get? name).getD (.memory .empty)

def setSite (w : World) (name : String) (s : Site) : World :=
  { w with sites := w.sites.set name s }

def changeStore (w : World) (name : String) (change : Store → Store) : World :=
  match w.site name with
  | .memory s => w.setSite name (.memory (change s))
  | .remote _ _ => w

def feed (w : World) (name : String) : Feed :=
  (w.feeds.get? name).getD ⟨[], .closed⟩

def setFeed (w : World) (name : String) (f : Feed) : World :=
  { w with feeds := w.feeds.set name f }

/-!
# Time

What happens from outside at an instant happens before the work of the program at that
instant.
-/

def isDue (t : Time) (o : OutsideChange) : Bool := o.time ≤ t

def applyOutside (w : World) (o : OutsideChange) : World :=
  w.changeStore o.site o.change

/-- Moves the clock forward. -/
def advance (t : Time) (w : World) : World :=
  let due := w.outside.takeWhile (isDue t)
  due.foldl applyOutside { w with now := max w.now t, outside := w.outside.dropWhile (isDue t) }

/-- What stops a watched run that waits until a time, and when.  The work at the instant of
the deadline is still done, and of a cancellation and a deadline at one instant the
cancellation counts. -/
def interruption? (w : World) (t : Time) : Option (Time × Stop) :=
  let cancelled := w.cancelAt.filter (· ≤ t)
  if !w.watched then
    none
  else
    match cancelled with
    | some s =>
        if w.deadline < s then some (max w.now w.deadline, .overdue)
        else some (max w.now s, .cancelled)
    | none => if w.deadline < t then some (max w.now w.deadline, .overdue) else none

/-- Waits until a time; without anything to wait for nothing can interrupt. -/
def waitUntil (t : Time) (w : World) : Except Stop Unit × World :=
  if t ≤ w.now then
    (.ok (), w)
  else
    match w.interruption? t with
    | some (u, stop) => (.error stop, w.advance u)
    | none => (.ok (), w.advance t)

def isCancelled (w : World) : Bool := w.cancelAt.any (· ≤ w.now)

/-- Whether the context of a run is cancelled: by the shutdown, or by the watchdog, which does
so only when it abandons the run.  A run that goes on is therefore told of the shutdown
alone. -/
def contextCancelled (w : World) : Bool := w.abandoned || w.isCancelled

/-- A pause, which also a cancellation of a run that is not watched ends. -/
def pause (duration : Time) (stage : Stage) (w : World) : Except Stop Unit × World :=
  match w.watched, w.cancelAt.filter (· ≤ w.now + duration) with
  | false, some c => (.error (.failed (.cancelled stage)), w.advance (max w.now c))
  | _, _ => w.waitUntil (w.now + duration)

def remaining (w : World) : Time := w.deadline - w.now

/-!
# Stages
-/

def enter (stage : Stage) (w : World) : Except Stop Stage × World :=
  if w.isCancelled then
    (.error (.failed (.cancelled w.stage)), w)
  else
    (.ok w.stage, { w with stage := stage, entered := stage :: w.entered })

/-!
# Databases
-/

def keys (name : String) (db : Database) (pattern : String) (w : World) :
    Except Stop (List String) × World :=
  match w.site name with
  | .remote settings reason => (.error (.failed (Endpoint.readFailure settings reason db)), w)
  | .memory s =>
      let operation := Store.keysOperation db pattern
      if s.refused db then
        (.error (.failed (Store.refusal db operation)), w)
      else
        let w := w.setSite name (.memory (s.grant operation))
        match w.waitUntil (w.now + s.delay.getD 0) with
        | (.error stop, w) => (.error stop, w)
        | (.ok (), w) =>
            match w.site name with
            | .memory s => (.ok (s.keys db pattern), w)
            | .remote _ _ => (.ok [], w)

def row (name : String) (db : Database) (key : String) (w : World) : Except Stop Fields × World :=
  match w.site name with
  | .remote settings reason => (.error (.failed (Endpoint.readFailure settings reason db)), w)
  | .memory s =>
      if s.refused db then (.error (.failed (Store.refusal db "hgetall")), w)
      else (.ok (s.fieldsOf db key), w)

def subscribe (name : String) (w : World) : Except Stop Unit × World :=
  match w.site name with
  | .remote settings reason => (.error (.failed (Endpoint.subscribeFailure settings reason)), w)
  | .memory s =>
      if s.refused .asic then
        (.error (.failed (Store.refusal .asic "subscribe")), w)
      else
        let (feed, s) := (s.grant "subscribe").subscribe w.now
        (.ok (), (w.setSite name (.memory s)).setFeed name feed)

/-!
# Draining a feed

Changes that are due come at once, others at their time, as long as the window is open when
they are asked for.  What a feed does at the very end of the window still counts.
-/

def notificationEvent (c : Change) : LogEvent :=
  .debug "Change notification" [("op", c.kind.name), ("key", c.key.text)]

def drainedEvent (d : Drained) : LogEvent :=
  .debug "Drained change feed"
    [("adds", toString d.adds.size), ("removes", toString d.removes.size)]

def feedClosedEvent : LogEvent := .debug "Change feed closed before window elapsed" []

/-- Ends a drain; what was not taken stays in the feed. -/
def endDrain (name : String) (left : Feed) (d : Drained) (w : World) :
    Except Stop Drained × World :=
  (.ok d, (w.setFeed name left).note (drainedEvent d))

/-- Waits for the end of the window, then ends the drain. -/
def endDrainAt (name : String) (finish : Time) (left : Feed) (d : Drained) (w : World) :
    Except Stop Drained × World :=
  match w.waitUntil finish with
  | (.error stop, w) => (.error stop, w)
  | (.ok (), w) => w.endDrain name left d

/-- Waits for what the feed does next and goes on with it, or ends the drain with the window
if that comes first. -/
def awaitNext (name : String) (finish time : Time) (left : Feed) (d : Drained)
    (next : World → Except Stop Drained × World) (w : World) : Except Stop Drained × World :=
  if max w.now time ≤ finish then
    match w.waitUntil time with
    | (.error stop, w) => (.error stop, w)
    | (.ok (), w) => next w
  else
    w.endDrainAt name finish left d

/-- Asks a feed that has no more changes. -/
def collectEnd (name : String) (finish : Time) (ending : FeedEnd) (d : Drained) (w : World) :
    Except Stop Drained × World :=
  match ending with
  | .silent => w.endDrainAt name finish ⟨[], ending⟩ d
  | .closes time =>
      w.awaitNext name finish time ⟨[], ending⟩ d fun w =>
        (w.note feedClosedEvent).endDrain name ⟨[], ending⟩ d
  | .breaks time f =>
      w.awaitNext name finish time ⟨[], ending⟩ d fun w =>
        (.error (.failed f), w.setFeed name ⟨[], ending⟩)

def collect (name : String) (finish : Time) (ending : FeedEnd) :
    List (Time × Change) → Drained → World → Except Stop Drained × World
  | [], d, w =>
      if finish ≤ w.now then w.endDrain name ⟨[], ending⟩ d
      else w.collectEnd name finish ending d
  | (time, c) :: rest, d, w =>
      if finish ≤ w.now then
        w.endDrain name ⟨(time, c) :: rest, ending⟩ d
      else
        w.awaitNext name finish time ⟨(time, c) :: rest, ending⟩ d fun w =>
          collect name finish ending rest (d.record c) (w.note (notificationEvent c))

def drain (name : String) (window : Time) (w : World) : Except Stop Drained × World :=
  let f := w.feed name
  collect name (w.now + window) f.ending f.events .empty w

/-!
# Routing daemons
-/

/-- The read that a daemon answers next, and the reads after it. -/
def nextRead : List DaemonRead → DaemonRead × List DaemonRead
  | [] => (.ok [], [])
  | [last] => (last, [last])
  | read :: rest => (read, rest)

def fetch (daemon : Nat) (w : World) : Except Stop (List Json) × World :=
  let (read, rest) := nextRead (w.daemons[daemon]?.getD [])
  let w := { w with daemons := w.daemons.set daemon rest, asked := daemon :: w.asked }
  match read with
  | .ok records => (.ok records, w)
  | .error f => (.error (.failed f), w)

/-!
# Programs
-/

def answer : (q : Request) → World → Except Stop q.Answer × World
  | .log event, w => (.ok (), w.note event)
  | .enter stage, w => w.enter stage
  | .remaining, w => (.ok w.remaining, w)
  | .keys name db pattern, w => w.keys name db pattern
  | .row name db key, w => w.row name db key
  | .subscribe name, w => w.subscribe name
  | .drain name window, w => w.drain name window
  | .fetch daemon, w => w.fetch daemon
  | .pause duration stage, w => w.pause duration stage

def run {α : Type} : Program α → World → Except Stop α × World
  | .done a, w => (.ok a, w)
  | .fail f, w => (.error (.failed f), w)
  | .ask q next, w =>
      match w.answer q with
      | (.ok x, w) => run (next x) w
      | (.error stop, w) => (.error stop, w)

end World
end RouteAudit
