import RouteAudit.Proofs.Cycle.Outcome
import RouteAudit.Proofs.Gathering.Requests

/-!
# The requests of a cycle

After its subscription a cycle enters stages, asks how much time is left, drains the feed of
its site and reads tables of that site.  It reads the configuration for the rules and for the
routing daemon only.
-/

namespace RouteAudit
namespace Check

open Program

/-- Requests under which a cycle reads the tables of a site, stage by stage. -/
structure AllowsReading (allowed : Request → Prop) (readable : Database → Prop) (site : String) :
    Prop extends Gathering.Allows allowed readable site where
  enter : ∀ stage, allowed (.enter stage)

/-- Requests under which a cycle on a site goes on after its snapshot. -/
structure Allows (allowed : Request → Prop) (readable : Database → Prop) (site : String) : Prop
    extends AllowsReading allowed readable site where
  remaining : allowed .remaining
  drain : ∀ window, allowed (.drain site window)

variable {c : Check} {allowed : Request → Prop} {readable : Database → Prop}

namespace AllowsReading

variable (h : AllowsReading allowed readable c.site)

include h

theorem keeps_takeSnapshot (happl : readable .appl) (hsubscribe : allowed (.subscribe c.site))
    (hprogrammed : ∀ pattern, allowed (.keys c.site .asic pattern)) :
    Keeps allowed c.takeSnapshot := by
  unfold takeSnapshot
  refine Keeps.bind (Keeps.enter (h.enter _)) fun _ => ?_
  refine Keeps.bind (Keeps.request trivial hsubscribe) fun _ => ?_
  exact h.keeps_snapshot happl hprogrammed

theorem keeps_compareTables (snapshot : Snapshot) : Keeps allowed (c.compareTables snapshot) := by
  exact ensures_compareTables_iff.mpr (Keeps.enter (h.enter _))

theorem keeps_exclude (happl : readable .appl) (hconfig : readable .config) (routes : Routes)
    (m : Mismatches) : Keeps allowed (c.exclude routes m) := by
  refine ensures_exclude_iff.mpr (Ensures.imp (Keeps.enter (h.enter _)) fun _ _ _ => ?_)
  exact h.keeps_context happl hconfig _ _ _

end AllowsReading

namespace Allows

variable (h : Allows allowed readable c.site)

include h

theorem keeps_reconcile (m : Mismatches) : Keeps allowed (c.reconcile m) := by
  refine ensures_reconcile_iff.mpr (Ensures.imp (Keeps.enter (h.enter _)) fun _ _ _ => ?_)
  refine Ensures.imp (Keeps.request trivial h.remaining) fun left _ _ => ?_
  exact Keeps.request trivial (h.drain _)

variable (happl : readable .appl) (hconfig : readable .config)

include happl hconfig

theorem keeps_explain (routes : Routes) (m : Mismatches) : Keeps allowed (c.explain routes m) := by
  unfold explain
  split
  · exact Keeps.pure m
  · exact Keeps.bind (h.keeps_reconcile m) fun n => h.keeps_exclude happl hconfig routes n

theorem keeps_cycle (hsubscribe : allowed (.subscribe c.site))
    (hprogrammed : ∀ pattern, allowed (.keys c.site .asic pattern))
    (hdaemon : Keeps allowed c.askDaemon) : Keeps allowed c.cycle := by
  unfold cycle stages
  apply Keeps.within
  refine Keeps.bind (h.keeps_takeSnapshot happl hsubscribe hprogrammed) fun snapshot => ?_
  refine Keeps.bind (h.keeps_compareTables snapshot) fun m => ?_
  refine Keeps.bind (h.keeps_explain happl hconfig _ m) fun n => ?_
  exact Keeps.bind hdaemon fun records => keeps_conclude h.enter _

end Allows
end Check
end RouteAudit
