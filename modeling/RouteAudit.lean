import RouteAudit.Main
import RouteAudit.DaemonShell
import RouteAudit.Syslog
import RouteAudit.Proofs.Difference.Interleaving
import RouteAudit.Proofs.Difference.Ascending
import RouteAudit.Proofs.Ascending.Members
import RouteAudit.Proofs.RouteKey.Sets
import RouteAudit.Proofs.World.Following
import RouteAudit.Proofs.World.Calm
import RouteAudit.Proofs.Gathering.Reading
import RouteAudit.Proofs.Exclusion.Benign
import RouteAudit.Proofs.Cycle.Calm
import RouteAudit.Proofs.Cycle.Outcome
import RouteAudit.Proofs.Cycle.Requests
import RouteAudit.Proofs.Cycle.Buckets
import RouteAudit.Proofs.Store.History
import RouteAudit.Proofs.Store.Rows
import RouteAudit.Proofs.Store.Concurrent
import RouteAudit.Proofs.Cycle.Interference
import RouteAudit.Proofs.World.Onward
import RouteAudit.Proofs.World.Points
import RouteAudit.Proofs.World.Trials
import RouteAudit.Proofs.Cycle.Course
import RouteAudit.Proofs.World.Stops
import RouteAudit.Proofs.Cycle.Stages
import RouteAudit.Proofs.Gathering.Requests
import RouteAudit.Proofs.World.Subscribing
import RouteAudit.Proofs.World.Mirrors
import RouteAudit.Proofs.Cycle.Forgetting
import RouteAudit.Proofs.Cycle.Refusals
import RouteAudit.Proofs.Settings.Namespaces
import RouteAudit.Proofs.World.Instant
import RouteAudit.Proofs.Cycle.Namespaces
import RouteAudit.Proofs.Cycle.Repetition
import RouteAudit.Proofs.Cycle.Shadowing
import RouteAudit.Proofs.World.Race
import RouteAudit.Proofs.Schedule.Turns
import RouteAudit.Proofs.Schedule.Timeline
import RouteAudit.Proofs.Schedule.Verdict
import RouteAudit.Proofs.Json.Sameness
import RouteAudit.Proofs.ControlPlane.Stuck
import RouteAudit.Proofs.Program.Spans
import RouteAudit.Proofs.World.Daemons
import RouteAudit.Proofs.ControlPlane.Reads
import RouteAudit.Proofs.ControlPlane.EveryRead
import RouteAudit.Proofs.Cycle.Result
import RouteAudit.Proofs.Store.Views
import RouteAudit.Proofs.Cycle.Independence
import RouteAudit.Proofs.Cycle.Monotone
import RouteAudit.Proofs.World.AtOnce
import RouteAudit.Proofs.Cycle.Budget
import RouteAudit.Proofs.Cycle.Overrun
import RouteAudit.Proofs.Settings.Deadline
import RouteAudit.Proofs.Json.ReadBack
import RouteAudit.Proofs.RouteEntry.Written
import RouteAudit.Proofs.Text.Items
import RouteAudit.Proofs.TableKey.Spelled
import RouteAudit.Proofs.TableKey.Agreement
import RouteAudit.Proofs.Gathering.Snapshot
import RouteAudit.Proofs.Cycle.Placeholders
import RouteAudit.Proofs.Cycle.Warnings
import RouteAudit.Proofs.World.Draining
import RouteAudit.Proofs.World.Endings
import RouteAudit.Proofs.Exclusion.Application
import RouteAudit.Proofs.RouteEntry.Notified
import RouteAudit.Proofs.Report.Failures
import RouteAudit.Proofs.LocalInterfaces.Anchored
import RouteAudit.Proofs.Mac.Grammar
import RouteAudit.Proofs.Settings.Documents
import RouteAudit.Proofs.Settings.Overflow
