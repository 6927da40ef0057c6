import RouteAudit.Proofs.Cycle.Repetition
import RouteAudit.Proofs.Store.Rows

/-!
# Rows that shadow others

Rows of different routing instances, and different spellings of one destination, are rows for
one key.  Of them the one with the greatest key counts, so a row can take a missing route out
of the report: if it overrides all other rows for the route, and if the rules take the route
out for the interfaces and the next hops of that row.  No other row can.
-/

namespace RouteAudit
namespace Check

open Exclusion

variable {c : Check} {store : Store} {w u : World} {k : RouteKey} {r : IntendedRoute}
  {rule : Rule} {key : String} {fields : List (String × String)}

/-!
# Rules that look at interfaces and next hops
-/

/-- What a check takes a route out for because of its interfaces and next hops. -/
inductive Hides (c : Check) (r : IntendedRoute) : Prop where
  | management {interface : String} : localInterface ∈ c.rules → interface ∈ r.interfaces →
      c.locals.isManagement interface = true → Hides c r
  | loopback {interface : String} : localInterface ∈ c.rules →
      (∀ a ∈ r.nexthops, a.isUnspecified = true) → interface ∈ r.interfaces →
      c.locals.isLoopbackStyle interface = true → Hides c r
  | fabric {interface : String} : fabricNeighbor ∈ c.rules → r.key.isHost = true →
      c.settings.fabricStart ≠ "" → r.nexthops ≠ [] →
      (∀ a ∈ r.nexthops, a.isUnspecified = true) → interface ∈ r.interfaces →
      c.settings.fabricStart.toList <+: interface.toList → Hides c r

theorem hides_iff (store : Store) {routes : Routes} (hroute : routes.route? k = some r) :
    c.Hides r ↔ exists rule, rule ∈ c.rules ∧ (rule = localInterface ∨ rule = fabricNeighbor) ∧
      rule.excludes (store.context routes c.locals c.settings.fabricStart) k = true := by
  rcases Routes.route?_eq_some_iff.mp hroute with ⟨_, rfl⟩
  constructor
  · intro h
    cases h with
    | management hrule hmem hname =>
        exact ⟨_, hrule, Or.inl rfl, excludes_localInterface.mpr
          ⟨r, _, hroute, hmem, Or.inl hname⟩⟩
    | loopback hrule hnexthops hmem hname =>
        exact ⟨_, hrule, Or.inl rfl, excludes_localInterface.mpr
          ⟨r, _, hroute, hmem, Or.inr ⟨hnexthops, hname⟩⟩⟩
    | fabric hrule hhost hstart hsome hnexthops hmem hprefix =>
        exact ⟨_, hrule, Or.inr rfl, excludes_fabricNeighbor.mpr
          ⟨r, _, hhost, hstart, hroute, hsome, hnexthops, hmem, hprefix⟩⟩
  · intro hparts
    rcases hparts with ⟨_, hrule, rfl | rfl, hexcludes⟩
    · rcases excludes_localInterface.mp hexcludes with ⟨found, interface, hfound, hmem, hname⟩
      obtain rfl : r = found := Option.some.inj (hroute.symm.trans hfound)
      rcases hname with hname | ⟨hnexthops, hname⟩
      · exact .management hrule hmem hname
      · exact .loopback hrule hnexthops hmem hname
    · rcases excludes_fabricNeighbor.mp hexcludes with
        ⟨found, interface, hhost, hstart, hfound, hsome, hnexthops, hmem, hprefix⟩
      obtain rfl : r = found := Option.some.inj (hroute.symm.trans hfound)
      exact .fabric hrule hhost hstart hsome hnexthops hmem hprefix

/-- The other rules say the same of a key whatever the intended routes are. -/
theorem excludes_routes {routes others : Routes} {locals : LocalInterfaces} {fabricStart : String}
    (hrule : rule ∈ standard) (hlocal : rule ≠ localInterface) (hfabric : rule ≠ fabricNeighbor) :
    rule.excludes (store.context routes locals fabricStart) k =
      rule.excludes (store.context others locals fabricStart) k := by
  simp only [standard, List.mem_cons, List.not_mem_nil, or_false] at hrule
  rcases hrule with rfl | rfl | rfl | rfl | rfl | rfl
  · exact absurd rfl hlocal
  · exact absurd rfl hfabric
  · rfl
  · rfl
  · rfl
  · rfl

/-!
# Missing routes beside a further row
-/

theorem leaves_withRoute (hrules : ∀ rule ∈ c.rules, rule ∈ standard) (hleaves : c.Leaves store k)
    (hroute : (store.withRoute key fields).intended.route? k = some r) :
    c.Leaves (store.withRoute key fields) k ↔ ¬c.Hides r := by
  unfold Leaves
  rw [Store.context_withRoute, hides_iff store hroute]
  constructor
  · intro h hparts
    rcases hparts with ⟨rule, hrule, _, hexcludes⟩
    rw [h rule hrule] at hexcludes
    cases hexcludes
  · intro h rule hrule
    by_cases hlooks : rule = localInterface ∨ rule = fabricNeighbor
    · apply Bool.eq_false_of_not_eq_true
      intro hexcludes
      exact h ⟨rule, hrule, hlooks, hexcludes⟩
    · rcases not_or.mp hlooks with ⟨hlocal, hfabric⟩
      rw [← hleaves rule hrule]
      exact excludes_routes (hrules rule hrule) hlocal hfabric

theorem not_hides_of_leaves (hleaves : c.Leaves store k)
    (hroute : store.intended.route? k = some r) : ¬c.Hides r := by
  rw [hides_iff store hroute]
  intro hparts
  rcases hparts with ⟨rule, hrule, _, hexcludes⟩
  rw [hleaves rule hrule] at hexcludes
  cases hexcludes

theorem lacks_withRoute (hrules : ∀ rule ∈ c.rules, rule ∈ standard) (h : c.Lacks store k) :
    c.Lacks (store.withRoute key fields) k ↔
      ¬(store.Overrides key k ∧
        c.Hides (IntendedRoute.ofRow k ⟨key, .ofList fields⟩).value) := by
  rcases h with ⟨hintended, hprogrammed, hleaves⟩
  rcases Routes.mem_keys_iff_route?.mp hintended with ⟨before, hbefore⟩
  have hcounts := store.route?_withRoute key fields k
  have hlacks : ∀ r, (store.withRoute key fields).intended.route? k = some r →
      (c.Lacks (store.withRoute key fields) k ↔ ¬c.Hides r) := by
    intro r hroute
    rw [← leaves_withRoute hrules hleaves hroute]
    unfold Lacks
    rw [Store.programmed_withRoute]
    have hkeys := Routes.mem_keys_iff_route?.mpr ⟨r, hroute⟩
    simp only [hkeys, hprogrammed, not_false_eq_true, true_and]
  by_cases hoverrides : store.Overrides key k
  · rw [if_pos hoverrides] at hcounts
    rw [hlacks _ hcounts]
    simp only [hoverrides, true_and]
  · rw [if_neg hoverrides, hbefore] at hcounts
    rw [hlacks before hcounts]
    simp only [hoverrides, false_and, not_false_eq_true, iff_true]
    exact not_hides_of_leaves hleaves hbefore

/-!
# Cycles beside a further row
-/

/-- Where no change comes to the aid of a route, it is missing with a further row of the route
table as it was without, unless the row overrides all others for the route and the rules hide
what it says. -/
theorem cycle_with_route (hrules : ∀ rule ∈ c.rules, rule ∈ standard)
    (h : w.IsCalm c.site store) (hwith : u.IsCalm c.site (store.withRoute key fields))
    (hquiet : c.lateChanges (store.withRoute key fields) u.now u.deadline = []) :
    (c.daemon = none → (exists o v, w.run c.cycle = (.ok o, v)) ∧
      exists p x, u.run c.cycle = (.ok p, x)) ∧
    ∀ o v p x, w.run c.cycle = (.ok o, v) → u.run c.cycle = (.ok p, x) →
      ∀ k ∈ o.missedRoutes, k ∈ p.missedRoutes ↔
        ¬(store.Overrides key k ∧
          c.Hides (IntendedRoute.ofRow k ⟨key, .ofList fields⟩).value) := by
  constructor
  · intro hdaemon
    rcases run_of_no_daemon h hdaemon with ⟨o, v, hrun, _⟩
    rcases run_of_no_daemon hwith hdaemon with ⟨p, x, hrunwith, _⟩
    exact ⟨⟨o, v, hrun⟩, p, x, hrunwith⟩
  · intro o v p x hrun hrunwith k hk
    rcases outcome_of_run h hrun with ⟨records, rfl⟩
    rcases outcome_of_run hwith hrunwith with ⟨later, rfl⟩
    rw [hquiet]
    have hlacks := (mem_missedRoutes_settled_iff.mp hk).1
    rw [← lacks_withRoute hrules hlacks]
    apply mem_missedRoutes_settled_iff.trans
    exact and_iff_left List.not_mem_nil

/-- A check by the standard rules for which `eth0` is a management interface. -/
def managed : Check := { plain with locals := ⟨["eth0"], []⟩ }

/-- A row of a routing instance, which goes over the management interface. -/
def managedFields : List (String × String) := [("ifname", "eth0"), ("nexthop", "10.1.0.1")]

def sixStore : Store := Store.empty.addRoute "fc00::/64" "Ethernet0" "fc00:1::1"

/-- Here the key of the row of the routing instance comes first. -/
theorem cycle_with_route_of_sixStore :
    exists o v p x k, (World.around sixStore).run managed.cycle = (.ok o, v) ∧
      (World.around (sixStore.withRoute "Vrf-red:fc00::/64" managedFields)).run managed.cycle =
        (.ok p, x) ∧
      k ∈ o.missedRoutes ∧ k ∈ p.missedRoutes := by
  have hcalm : (World.around sixStore).IsCalm managed.site sixStore :=
    World.isCalm_around rfl (by decide)
  have hwith : (World.around (sixStore.withRoute "Vrf-red:fc00::/64" managedFields)).IsCalm
      managed.site (sixStore.withRoute "Vrf-red:fc00::/64" managedFields) :=
    World.isCalm_around rfl (by decide)
  rcases cycle_with_route (fun _ hrule => hrule) hcalm hwith rfl with ⟨hruns, hmissed⟩
  rcases hruns rfl with ⟨⟨o, v, hrun⟩, p, x, hrunwith⟩
  have hk : ⟨.v6 #v[0xfc00, 0, 0, 0, 0, 0, 0, 0], 64, by decide⟩ ∈ o.missedRoutes := by
    rcases outcome_of_run hcalm hrun with ⟨records, rfl⟩
    exact mem_missedRoutes_settled_iff.mpr
      ⟨⟨by decide +kernel, by decide +kernel, by decide +kernel⟩, List.not_mem_nil⟩
  refine ⟨o, v, p, x, _, hrun, hrunwith, hk, (hmissed o v p x hrun hrunwith _ hk).mpr ?_⟩
  have hprecedes : ¬sixStore.Overrides "Vrf-red:fc00::/64"
      ⟨.v6 #v[0xfc00, 0, 0, 0, 0, 0, 0, 0], 64, by decide⟩ := by decide +kernel
  exact fun hparts => hprecedes hparts.1

def fourStore : Store := Store.empty.addRoute "10.0.0.0/24" "Ethernet0" "10.1.0.1"

def shadowedStore : Store := fourStore.withRoute "Vrf-red:10.0.0.0/24" managedFields

/-- Here it comes last. -/
theorem row_of_other_instance_hides_route :
    exists o v p x k, managed.lateChanges fourStore 0 60000 = [] ∧
      managed.lateChanges shadowedStore 0 60000 = [] ∧
      (World.around fourStore).run managed.cycle = (.ok o, v) ∧
      (World.around shadowedStore).run managed.cycle = (.ok p, x) ∧
      k ∈ o.missedRoutes ∧ k ∉ p.missedRoutes := by
  have hcalm : (World.around fourStore).IsCalm managed.site fourStore :=
    World.isCalm_around rfl (by decide)
  have hwith : (World.around shadowedStore).IsCalm managed.site shadowedStore :=
    World.isCalm_around rfl (by decide)
  rcases run_of_no_daemon hcalm rfl with ⟨_, v, hrun, rfl⟩
  rcases run_of_no_daemon hwith rfl with ⟨_, x, hrunwith, rfl⟩
  have hlacks : managed.Lacks fourStore ⟨.v4 #v[10, 0, 0, 0], 24, by decide⟩ :=
    ⟨by decide +kernel, by decide +kernel, by decide +kernel⟩
  refine ⟨_, v, _, x, _, rfl, rfl, hrun, hrunwith,
    mem_missedRoutes_settled_iff.mpr ⟨hlacks, List.not_mem_nil⟩, ?_⟩
  intro hk
  have hlackswith := (mem_missedRoutes_settled_iff.mp hk).1
  rw [shadowedStore, lacks_withRoute (fun _ hrule => hrule) hlacks] at hlackswith
  apply hlackswith
  constructor
  · decide +kernel
  · exact .management List.mem_cons_self List.mem_cons_self rfl

end Check
end RouteAudit
