import RouteAudit.Gathering
import RouteAudit.Proofs.Program.Surroundings

/-!
# The requests of the reading programs

The programs that read the tables of a site list keys and read rows of that site, and make no
other request.  Only the snapshot lists the programmed routes.
-/

namespace RouteAudit
namespace Gathering

open Program

/-- Requests under which all tables of a site's readable databases but the programmed routes
are read. -/
structure Allows (allowed : Request → Prop) (readable : Database → Prop) (site : String) :
    Prop where
  keys : ∀ db pattern, readable db → db ≠ .asic → allowed (.keys site db pattern)
  row : ∀ db key, readable db → allowed (.row site db key)

namespace Allows

variable {allowed : Request → Prop} {readable : Database → Prop} {site : String}

theorem keeps_scan (h : Allows allowed readable site) {db : Database} {table : String}
    (hreadable : readable db) (hdb : db ≠ .asic) : Keeps allowed (scan site db table) :=
  Keeps.scan (fun pattern => h.keys db pattern hreadable hdb) fun key => h.row db key hreadable

/-!
# The snapshot
-/

theorem keeps_intendedRoutes (h : Allows allowed readable site) (happl : readable .appl) :
    Keeps allowed (intendedRoutes site) := by
  unfold intendedRoutes
  refine Keeps.bind (h.keeps_scan happl (by decide)) fun rows => ?_
  exact Keeps.bind (Keeps.ofLogged _) fun _ => Keeps.pure _

theorem keeps_interfaceAddresses (h : Allows allowed readable site) (happl : readable .appl) :
    Keeps allowed (interfaceAddresses site) := by
  unfold interfaceAddresses keysOf
  refine Keeps.bind (Keeps.request trivial (h.keys _ _ happl (by decide))) fun keys => ?_
  exact Keeps.bind (Keeps.ofLogged _) fun _ => Keeps.pure _

theorem keeps_programmedRoutes (hprogrammed : ∀ pattern, allowed (.keys site .asic pattern)) :
    Keeps allowed (programmedRoutes site) := by
  unfold programmedRoutes keysOf
  refine Keeps.bind (Keeps.request trivial (hprogrammed _)) fun keys => ?_
  exact Keeps.bind (Keeps.ofLogged _) fun _ => Keeps.pure _

theorem keeps_snapshot (h : Allows allowed readable site) (happl : readable .appl)
    (hprogrammed : ∀ pattern, allowed (.keys site .asic pattern)) :
    Keeps allowed (snapshot site) := by
  unfold snapshot
  refine Keeps.bind (keeps_programmedRoutes hprogrammed) fun programmed => ?_
  refine Keeps.bind (h.keeps_intendedRoutes happl) fun routes => ?_
  refine Keeps.bind (h.keeps_interfaceAddresses happl) fun interfaces => ?_
  exact Keeps.bind (Keeps.log _) fun _ => Keeps.pure _

/-!
# The tables of the rules
-/

variable (h : Allows allowed readable site) (happl : readable .appl)

include h happl

theorem keeps_vnetRoutes (table : String) : Keeps allowed (vnetRoutes site table) := by
  unfold vnetRoutes
  exact Keeps.bind (h.keeps_scan happl (by decide)) fun _ => Keeps.pure _

theorem keeps_standbyNeighbors : Keeps allowed (standbyNeighbors site) := by
  unfold standbyNeighbors
  exact Keeps.bind (h.keeps_scan happl (by decide)) fun _ => Keeps.pure _

variable (hconfig : readable .config)

include hconfig

omit happl in
theorem keeps_cableAddresses : Keeps allowed (cableAddresses site) := by
  unfold cableAddresses
  refine Keeps.bind (h.keeps_scan hconfig (by decide)) fun _ => ?_
  exact Keeps.bind (Keeps.ofLogged _) fun _ => Keeps.pure _

theorem keeps_dualTorTables (dualTor : Bool) : Keeps allowed (dualTorTables site dualTor) := by
  unfold dualTorTables
  split
  · refine Keeps.bind (h.keeps_standbyNeighbors happl) fun _ => ?_
    exact Keeps.bind (h.keeps_cableAddresses hconfig) fun _ => Keeps.pure _
  · exact Keeps.pure _

theorem keeps_context (routes : Routes) (locals : LocalInterfaces) (fabricStart : String) :
    Keeps allowed (context site routes locals fabricStart) := by
  unfold context entry
  refine Keeps.bind (Keeps.request trivial (h.row _ _ hconfig)) fun metadata => ?_
  refine Keeps.bind (h.keeps_vnetRoutes happl _) fun plain => ?_
  refine Keeps.bind (h.keeps_vnetRoutes happl _) fun tunnels => ?_
  refine Keeps.bind (h.keeps_dualTorTables happl hconfig _) fun tables => ?_
  exact Keeps.bind (Keeps.log _) fun _ => Keeps.pure _

end Allows
end Gathering
end RouteAudit
