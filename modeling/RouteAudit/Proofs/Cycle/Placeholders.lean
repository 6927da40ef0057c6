import RouteAudit.Proofs.Cycle.Repetition
import RouteAudit.Proofs.Gathering.Snapshot

/-!
# Placeholders

A missing route whose next hops lead nowhere is held to be a placeholder, if it goes over an
interface of a certain kind.  What leads nowhere is decided for the addresses among the next
hops alone.  So an address that is not the unspecified one always keeps a route from being a
placeholder, and an item that is no address never does.
-/

namespace RouteAudit
namespace Check

open Exclusion

variable {c : Check} {store : Store} {w : World} {k : RouteKey} {key : String}
  {interfaces nexthops : List (List Char)} {locals : LocalInterfaces} {fabricStart : String}

/-!
# Clauses
-/

/-- The addresses among some items are all unspecified; other items do not count. -/
def LeadsNowhere (nexthops : List (List Char)) : Prop :=
  ∀ item ∈ nexthops, ∀ a, Address.ofChars? item = some a → a.isUnspecified = true

/-- A row goes over a management interface. -/
def OverManagement (locals : LocalInterfaces) (interfaces : List (List Char)) : Prop :=
  exists interface, interface ∈ interfaces ∧ locals.isManagement (String.ofList interface) = true

/-- A row is a placeholder on a loopback-style interface. -/
structure OverLoopback (locals : LocalInterfaces) (interfaces nexthops : List (List Char)) :
    Prop where
  interface : exists interface, interface ∈ interfaces ∧
    locals.isLoopbackStyle (String.ofList interface) = true
  nowhere : LeadsNowhere nexthops

/-- A row is a placeholder for a neighbor in the fabric. -/
structure OverFabric (fabricStart : String) (k : RouteKey)
    (interfaces nexthops : List (List Char)) : Prop where
  host : k.isHost = true
  fabric : fabricStart ≠ ""
  interface : exists interface, interface ∈ interfaces ∧ fabricStart.toList <+: interface
  given : exists item a, item ∈ nexthops ∧ Address.ofChars? item = some a
  nowhere : LeadsNowhere nexthops

theorem leadsNowhere_iff :
    (∀ a ∈ nexthops.filterMap Address.ofChars?, a.isUnspecified = true) ↔
      LeadsNowhere nexthops := by
  unfold LeadsNowhere
  simp only [List.mem_filterMap]
  constructor
  · intro h item hitem a haddress
    exact h a ⟨item, hitem, haddress⟩
  · intro h a hparts
    rcases hparts with ⟨item, hitem, haddress⟩
    exact h item hitem a haddress

theorem filterMap_ne_nil_iff : nexthops.filterMap Address.ofChars? ≠ [] ↔
    exists item a, item ∈ nexthops ∧ Address.ofChars? item = some a := by
  constructor
  · intro h
    rcases List.exists_mem_of_ne_nil _ h with ⟨a, ha⟩
    rcases List.mem_filterMap.mp ha with ⟨item, hitem, haddress⟩
    exact ⟨item, a, hitem, haddress⟩
  · intro h
    rcases h with ⟨item, a, hitem, haddress⟩
    exact List.ne_nil_of_mem (List.mem_filterMap.mpr ⟨item, hitem, haddress⟩)

/-!
# Rules
-/

theorem excludes_localInterface_of_counts (hcounts : store.Counts key k)
    (hrow : store.RowLists key interfaces nexthops) :
    localInterface.excludes (store.context store.intended locals fabricStart) k = true ↔
      OverManagement locals interfaces ∨ OverLoopback locals interfaces nexthops := by
  have hroute : (store.context store.intended locals fabricStart).routes.route? k = some _ :=
    Store.route?_intended_of_counts hcounts hrow
  rw [excludes_localInterface]
  constructor
  · intro h
    rcases h with ⟨r, name, hfound, hmem, hname⟩
    obtain rfl := Option.some.inj (hroute.symm.trans hfound)
    rcases List.mem_map.mp hmem with ⟨interface, hinterface, rfl⟩
    rcases hname with hmanagement | ⟨hnexthops, hloopback⟩
    · exact Or.inl ⟨interface, hinterface, hmanagement⟩
    · exact Or.inr ⟨⟨interface, hinterface, hloopback⟩, leadsNowhere_iff.mp hnexthops⟩
  · intro h
    cases h with
    | inl h =>
        rcases h with ⟨interface, hinterface, hmanagement⟩
        exact ⟨_, _, hroute, List.mem_map_of_mem hinterface, Or.inl hmanagement⟩
    | inr h =>
        rcases h with ⟨⟨interface, hinterface, hloopback⟩, hnowhere⟩
        exact ⟨_, _, hroute, List.mem_map_of_mem hinterface,
          Or.inr ⟨leadsNowhere_iff.mpr hnowhere, hloopback⟩⟩

theorem excludes_fabricNeighbor_of_counts (hcounts : store.Counts key k)
    (hrow : store.RowLists key interfaces nexthops) :
    fabricNeighbor.excludes (store.context store.intended locals fabricStart) k = true ↔
      OverFabric fabricStart k interfaces nexthops := by
  have hroute : (store.context store.intended locals fabricStart).routes.route? k = some _ :=
    Store.route?_intended_of_counts hcounts hrow
  rw [excludes_fabricNeighbor]
  constructor
  · intro h
    rcases h with ⟨r, name, hhost, hfabric, hfound, hgiven, hnexthops, hmem, hprefix⟩
    obtain rfl := Option.some.inj (hroute.symm.trans hfound)
    rcases List.mem_map.mp hmem with ⟨interface, hinterface, rfl⟩
    rw [String.toList_ofList] at hprefix
    exact ⟨hhost, hfabric, ⟨interface, hinterface, hprefix⟩, filterMap_ne_nil_iff.mp hgiven,
      leadsNowhere_iff.mp hnexthops⟩
  · intro h
    rcases h.interface with ⟨interface, hinterface, hprefix⟩
    refine ⟨_, String.ofList interface, h.host, h.fabric, hroute,
      filterMap_ne_nil_iff.mpr h.given, leadsNowhere_iff.mpr h.nowhere,
      List.mem_map_of_mem hinterface, ?_⟩
    rw [String.toList_ofList]
    exact hprefix

theorem leaves_of_counts (hcounts : store.Counts key k)
    (hrow : store.RowLists key interfaces nexthops) : c.Leaves store k ↔
      (localInterface ∈ c.rules →
        ¬OverManagement c.locals interfaces ∧ ¬OverLoopback c.locals interfaces nexthops) ∧
      (fabricNeighbor ∈ c.rules → ¬OverFabric c.settings.fabricStart k interfaces nexthops) ∧
      ∀ rule ∈ c.rules, rule ≠ localInterface → rule ≠ fabricNeighbor →
        rule.excludes (store.context store.intended c.locals c.settings.fabricStart) k = false := by
  unfold Leaves
  rw [← not_or, ← excludes_localInterface_of_counts hcounts hrow,
    ← excludes_fabricNeighbor_of_counts hcounts hrow, Bool.not_eq_true, Bool.not_eq_true]
  constructor
  · intro h
    exact ⟨h _, h _, fun rule hrule _ _ => h rule hrule⟩
  · intro h rule hrule
    rcases h with ⟨hlocal, hfabric, hothers⟩
    by_cases hislocal : rule = localInterface
    · subst hislocal
      exact hlocal hrule
    · by_cases hisfabric : rule = fabricNeighbor
      · subst hisfabric
        exact hfabric hrule
      · exact hothers rule hrule hislocal hisfabric

/-!
# Cycles
-/

/-- A route is reported missing, whatever its row lists, unless it is programmed or added late,
goes over a management interface, is a placeholder, or is taken out by one of the other rules.
An address that is not the unspecified one keeps it from being a placeholder. -/
theorem missed_of_row (h : w.IsCalm c.site store) (hcounts : store.Counts key k)
    (hrow : store.RowLists key interfaces nexthops) :
    (c.daemon = none → exists o v, w.run c.cycle = (.ok o, v)) ∧
    (∀ o v, w.run c.cycle = (.ok o, v) → (k ∈ o.missedRoutes ↔
      k ∉ store.programmed ∧ ⟨.add, k⟩ ∉ c.lateChanges store w.now w.deadline ∧
      (localInterface ∈ c.rules →
        ¬OverManagement c.locals interfaces ∧ ¬OverLoopback c.locals interfaces nexthops) ∧
      (fabricNeighbor ∈ c.rules → ¬OverFabric c.settings.fabricStart k interfaces nexthops) ∧
      ∀ rule ∈ c.rules, rule ≠ localInterface → rule ≠ fabricNeighbor →
        rule.excludes (store.context store.intended c.locals c.settings.fabricStart) k = false)) ∧
    ∀ item ∈ nexthops, ∀ a, Address.ofChars? item = some a → a.isUnspecified = false →
      ¬OverLoopback c.locals interfaces nexthops ∧
      ¬OverFabric c.settings.fabricStart k interfaces nexthops := by
  refine ⟨?_, ?_, ?_⟩
  · intro hdaemon
    rcases run_of_no_daemon h hdaemon with ⟨o, v, hrun, _⟩
    exact ⟨o, v, hrun⟩
  · intro o v hrun
    have hintended : k ∈ store.intended.keys :=
      Store.mem_keys_intended_iff.mpr ⟨key, hcounts.row⟩
    rcases outcome_of_run h hrun with ⟨records, rfl⟩
    rw [← leaves_of_counts hcounts hrow]
    refine mem_missedRoutes_settled_iff.trans ?_
    unfold Lacks
    constructor
    · intro hparts
      rcases hparts with ⟨⟨_, hprogrammed, hleaves⟩, hadd⟩
      exact ⟨hprogrammed, hadd, hleaves⟩
    · intro hparts
      rcases hparts with ⟨hprogrammed, hadd, hleaves⟩
      exact ⟨⟨hintended, hprogrammed, hleaves⟩, hadd⟩
  · intro item hitem a haddress hspecified
    have hsomewhere : ¬LeadsNowhere nexthops := by
      intro hnowhere
      rw [hnowhere item hitem a haddress] at hspecified
      cases hspecified
    exact ⟨fun hloopback => hsomewhere hloopback.nowhere,
      fun hfabric => hsomewhere hfabric.nowhere⟩

/-- A check for which `lo` is a loopback-style interface. -/
def looped : Check :=
  { plain with locals := ⟨[], [.seq (.place .start .empty)
      (.seq (.seq (.one (.single 'l')) (.one (.single 'o'))) (.place .finish .empty))]⟩ }

/-- A route over it, to somewhere and to what is no address. -/
def halfReadStore : Store := Store.empty.addRoute "10.0.0.0/24" "lo" "0.0.0.0, stray,10.1.0.1"

theorem missed_of_row_of_halfReadStore :
    exists o v k, (World.around halfReadStore).run looped.cycle = (.ok o, v) ∧
      k ∈ o.missedRoutes := by
  have hcalm : (World.around halfReadStore).IsCalm looped.site halfReadStore :=
    World.isCalm_around rfl (by decide)
  have hcounts : halfReadStore.Counts "10.0.0.0/24" ⟨.v4 #v[10, 0, 0, 0], 24, by decide⟩ := by
    decide +kernel
  have hrow : halfReadStore.RowLists "10.0.0.0/24" ["lo".toList]
      ["0.0.0.0".toList, "stray".toList, "10.1.0.1".toList] := by
    decide +kernel
  have hleaves : looped.Leaves halfReadStore ⟨.v4 #v[10, 0, 0, 0], 24, by decide⟩ := by
    decide +kernel
  rcases missed_of_row hcalm hcounts hrow with ⟨hruns, hmissed, hsomewhere⟩
  rcases hruns rfl with ⟨o, v, hrun⟩
  rcases hsomewhere "10.1.0.1".toList (by simp) (.v4 #v[10, 1, 0, 1]) (by decide +kernel) rfl with
    ⟨hloopback, hfabric⟩
  refine ⟨o, v, _, hrun, (hmissed o v hrun).mpr ⟨by decide +kernel, by decide +kernel, ?_, ?_, ?_⟩⟩
  · intro _
    constructor
    · intro hmanagement
      rcases hmanagement with ⟨interface, _, hname⟩
      cases hname
    · exact hloopback
  · exact fun _ => hfabric
  · exact fun rule hrule _ _ => hleaves rule hrule

/-- A route over `lo`, to nothing but what is no address. -/
def unreadStore : Store := Store.empty.addRoute "10.0.0.0/24" "lo" "stray"

theorem unread_nexthop_hides_route :
    exists o v k, (World.around unreadStore).run looped.cycle = (.ok o, v) ∧
      unreadStore.Counts "10.0.0.0/24" k ∧
      unreadStore.RowLists "10.0.0.0/24" ["lo".toList] ["stray".toList] ∧
      Address.ofChars? "stray".toList = none ∧
      k ∉ unreadStore.programmed ∧ looped.lateChanges unreadStore 0 60000 = [] ∧
      ¬OverManagement looped.locals ["lo".toList] ∧
      (∀ rule ∈ looped.rules, rule ≠ localInterface →
        rule.excludes (unreadStore.context unreadStore.intended looped.locals
          looped.settings.fabricStart) k = false) ∧
      k ∉ o.missedRoutes := by
  have hcalm : (World.around unreadStore).IsCalm looped.site unreadStore :=
    World.isCalm_around rfl (by decide)
  rcases run_of_no_daemon hcalm rfl with ⟨_, v, hrun, rfl⟩
  refine ⟨_, v, ⟨.v4 #v[10, 0, 0, 0], 24, by decide⟩, hrun, by decide +kernel, by decide +kernel,
    by decide +kernel, by decide +kernel, rfl, ?_, ?_, ?_⟩
  · intro hmanagement
    rcases hmanagement with ⟨interface, _, hname⟩
    cases hname
  · intro rule hrule hlocal
    have hothers : ∀ rule ∈ standard.tail, rule.excludes (unreadStore.context unreadStore.intended
        looped.locals looped.settings.fabricStart)
        ⟨.v4 #v[10, 0, 0, 0], 24, by decide⟩ = false := by
      decide +kernel
    cases List.mem_cons.mp hrule with
    | inl heq => exact absurd heq hlocal
    | inr hmem => exact hothers rule hmem
  · intro hk
    have hleaves := (mem_missedRoutes_settled_iff.mp hk).1.2.2
    exact absurd hleaves (by decide +kernel)

end Check
end RouteAudit
