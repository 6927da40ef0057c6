import RouteAudit.Proofs.Cycle.Buckets
import RouteAudit.Proofs.LocalInterfaces.Members
import RouteAudit.Proofs.Store.Views

/-!
# What only hides mismatches

The sources of the exclusion rules and the late changes take mismatches away and never make one.
A cycle that has more of them, beside the same tables to compare, reports none that the other
does not report, although some of them also decide which rules are active and which tables are
read.
-/

namespace RouteAudit

/-!
# More to exclude
-/

/-- Whether the row of a neighbor carries the all-zero hardware address. -/
def Store.HasStandby (s : Store) (key : String) : Prop :=
  s.HasKey .appl key ∧ Gathering.isStandby ⟨key, s.fieldsOf .appl key⟩ = true

/-- Beside the same tables to compare, a store has at least the rows of another one that the
rules consult.  The tables of dual top-of-rack devices count where the first device is one. -/
structure Store.HidesLess (s t : Store) : Prop where
  routes : s.SameRows t .appl "ROUTE_TABLE:" ["ifname", "nexthop"]
  interfaces : s.SameRows t .appl "INTF_TABLE:" []
  entries : s.SameRows t .asic "ASIC_STATE:SAI_OBJECT_TYPE_ROUTE_ENTRY:" []
  vnetRoutes : ∀ key, "VNET_ROUTE_TABLE:".toList <+: key.toList →
    s.HasKey .appl key → t.HasKey .appl key
  vnetTunnels : ∀ key, "VNET_ROUTE_TUNNEL_TABLE:".toList <+: key.toList →
    s.HasKey .appl key → t.HasKey .appl key
  dualTor : s.isDualTor = true → t.isDualTor = true
  neighbors : s.isDualTor = true → ∀ key, "NEIGH_TABLE:".toList <+: key.toList →
    s.HasStandby key → t.HasStandby key
  cables : s.isDualTor = true → ∀ name value, (name = "soc_ipv4" ∨ name = "soc_ipv6") →
    s.HasCableValue name value → t.HasCableValue name value

namespace Exclusion

variable {s t : Store} {l m : LocalInterfaces} {fabricStart : String} {k : RouteKey}

/-- A row of a table is there also where all keys of the table are. -/
theorem exists_row_of_keys {table : String} {row : Row} (hrow : row ∈ s.tableRows .appl table)
    (h : ∀ key, (Database.tableStart .appl table).toList <+: key.toList →
      s.HasKey .appl key → t.HasKey .appl key) :
    exists other, other ∈ t.tableRows .appl table ∧ other.key = row.key := by
  have hstart : (Database.tableStart .appl table).toList <+:
      (Database.tableStart .appl table ++ row.key).toList := by
    rw [String.toList_append]
    exact List.prefix_append _ _
  refine ⟨⟨row.key, t.fieldsOf .appl (Database.tableStart .appl table ++ row.key)⟩, ?_, rfl⟩
  exact Store.mem_tableRows.mpr ⟨h _ hstart (Store.mem_tableRows.mp hrow).1, rfl⟩

theorem exists_standby_row {row : Row} (hrow : row ∈ s.tableRows .appl Tables.neighbor)
    (hstandby : Gathering.isStandby row = true)
    (h : ∀ key, "NEIGH_TABLE:".toList <+: key.toList → s.HasStandby key → t.HasStandby key) :
    exists other, other ∈ t.tableRows .appl Tables.neighbor ∧
      Gathering.isStandby other = true ∧ other.key = row.key := by
  rcases Store.mem_tableRows.mp hrow with ⟨hheld, hfields⟩
  rcases row with ⟨short, fields⟩
  have hfields' : fields = s.fieldsOf .appl ("NEIGH_TABLE:" ++ short) := hfields
  rw [hfields'] at hstandby
  have hstart : "NEIGH_TABLE:".toList <+: ("NEIGH_TABLE:" ++ short).toList := by
    rw [String.toList_append]
    exact List.prefix_append _ _
  rcases h _ hstart ⟨hheld, hstandby⟩ with ⟨hother, hotherstandby⟩
  exact ⟨⟨short, _⟩, Store.mem_tableRows.mpr ⟨hother, rfl⟩, hotherstandby, rfl⟩

/-- What is benign stays so where there is more to exclude. -/
theorem Benign.mono (hstores : s.HidesLess t)
    (hmanagement : ∀ interface, l.isManagement interface = true → m.isManagement interface = true)
    (hloopback : ∀ interface,
      l.isLoopbackStyle interface = true → m.isLoopbackStyle interface = true)
    (h : Benign s l fabricStart k) : Benign t m fabricStart k := by
  have hintended := Store.intended_congr hstores.routes
  cases h with
  | localInterface hr hkey hmem hname =>
      rw [hintended] at hr
      exact Benign.localInterface hr hkey hmem (hmanagement _ hname)
  | loopback hr hkey hnexthops hmem hname =>
      rw [hintended] at hr
      exact Benign.loopback hr hkey hnexthops hmem (hloopback _ hname)
  | fabricNeighbor hhost hstart hr hkey hsome hnexthops hmem hprefix =>
      rw [hintended] at hr
      exact Benign.fabricNeighbor hhost hstart hr hkey hsome hnexthops hmem hprefix
  | defaultRoute hdefault => exact Benign.defaultRoute hdefault
  | vnetRoute htable hrow hkey =>
      rcases htable with rfl | rfl
      · rcases exists_row_of_keys hrow hstores.vnetRoutes with ⟨other, hother, hsame⟩
        exact Benign.vnetRoute (Or.inl rfl) hother (hsame ▸ hkey)
      · rcases exists_row_of_keys hrow hstores.vnetTunnels with ⟨other, hother, hsame⟩
        exact Benign.vnetRoute (Or.inr rfl) hother (hsame ▸ hkey)
  | standbyNeighbor hdual hhost hrow hstandby hkey =>
      rcases exists_standby_row hrow hstandby (hstores.neighbors hdual) with
        ⟨other, hother, hotherstandby, hsame⟩
      exact Benign.standbyNeighbor (hstores.dualTor hdual) hhost hother hotherstandby
        (hsame ▸ hkey)
  | cableAddress hdual hrow hfield hread haddress =>
      have hhost := Store.mem_cableHosts.mpr ⟨_, _, _, hrow, hfield, hread, haddress⟩
      rcases Store.mem_cableHosts_iff.mp hhost with ⟨name, value, hname, hvalue, hvalueaddress⟩
      have hother := Store.mem_cableHosts_iff.mpr
        ⟨name, value, hname, hstores.cables hdual name value hname hvalue, hvalueaddress⟩
      rcases Store.mem_cableHosts.mp hother with
        ⟨row, field, text, hrow, hfield, hread, haddress⟩
      exact Benign.cableAddress (hstores.dualTor hdual) hrow hfield hread haddress

end Exclusion

namespace Check

variable {c d : Check} {store other : Store} {w u : World} {engine : Pattern.Engine}
  {names others : List String}

/-!
# Fewer mismatches
-/

/-- Whether two mismatches are such that the second ones are among the first ones. -/
def ReportsLess (m n : Mismatches) : Prop :=
  ∀ k, (k ∈ n.missedRoutes → k ∈ m.missedRoutes) ∧
    (k ∈ n.missedInterfaces → k ∈ m.missedInterfaces) ∧
    (k ∈ n.unaccounted → k ∈ m.unaccounted)

theorem reportsLess_settled {changes more : List Change} (hrules : c.rules = Exclusion.standard)
    (hrules' : d.rules = Exclusion.standard) (hstores : store.HidesLess other)
    (hbenign : ∀ k, Exclusion.Benign store c.locals c.settings.fabricStart k →
      Exclusion.Benign other d.locals d.settings.fabricStart k)
    (hchanges : changes ⊆ more) :
    ReportsLess (c.settled store changes) (d.settled other more) := by
  intro k
  rw [mem_missedRoutes_settled hrules, mem_missedRoutes_settled hrules',
    mem_missedInterfaces_settled, mem_missedInterfaces_settled, mem_unaccounted_settled hrules,
    mem_unaccounted_settled hrules', ← Store.intended_congr hstores.routes,
    ← Store.interfaceHosts_congr hstores.interfaces, ← Store.programmed_congr hstores.entries]
  refine ⟨?_, id, ?_⟩
  · intro hparts
    rcases hparts with ⟨hintended, hprogrammed, hadd, hplain⟩
    exact ⟨hintended, hprogrammed, fun h => hadd (hchanges h), fun h => hplain (hbenign k h)⟩
  · intro hparts
    rcases hparts with ⟨hprogrammed, hintended, hinterface, hremove, hplain⟩
    exact ⟨hprogrammed, hintended, hinterface, fun h => hremove (hchanges h),
      fun h => hplain (hbenign k h)⟩

theorem passed_of_reportsLess {m n : Mismatches} (h : ReportsLess m n)
    (hpassed : (m.outcome []).passed = true) : (n.outcome []).passed = true := by
  have hclean := Mismatches.isClean_iff.mp (Mismatches.passed_outcome_iff.mp hpassed).1
  refine Mismatches.passed_outcome_iff.mpr ⟨Mismatches.isClean_iff.mpr ?_, rfl⟩
  intro k
  rcases hclean k with ⟨hroutes, hinterfaces, hunaccounted⟩
  rcases h k with ⟨hroutes', hinterfaces', hunaccounted'⟩
  exact ⟨fun hk => hroutes (hroutes' hk), fun hk => hinterfaces (hinterfaces' hk),
    fun hk => hunaccounted (hunaccounted' hk)⟩

/-!
# Whole cycles
-/

/-- Both cycles have outcomes, and the second one has no mismatch that the first one has not. -/
def HidesMore (c d : Check) (w u : World) : Prop :=
  exists o v p x, w.run c.cycle = (.ok o, v) ∧ u.run d.cycle = (.ok p, x) ∧
    p.missedRoutes ⊆ o.missedRoutes ∧ p.missedInterfaces ⊆ o.missedInterfaces ∧
    p.unaccounted ⊆ o.unaccounted ∧ (o.passed = true → p.passed = true)

/-- Exclusion sources and late changes only hide mismatches: with more of them, be they those
that arrive in the window or, where the changes are all there from the start, those that are
kept, a cycle reports less, and passes if the other passes. -/
theorem cycle_hides_more (hw : w.IsCalm c.site store) (hu : u.IsCalm d.site other)
    (hrules : c.rules = Exclusion.standard) (hrules' : d.rules = Exclusion.standard)
    (hdaemon : c.daemon = none) (hdaemon' : d.daemon = none) (hstores : store.HidesLess other)
    (hfabric : c.settings.fabricStart = d.settings.fabricStart)
    (hlocals : LocalInterfaces.ofNames engine names c.settings = .ok c.locals)
    (hlocals' : LocalInterfaces.ofNames engine others d.settings = .ok d.locals)
    (hnames : names ⊆ others)
    (hpatterns : c.settings.localPatterns ⊆ d.settings.localPatterns) :
    (c.lateChanges store w.now w.deadline ⊆ d.lateChanges other u.now u.deadline →
      HidesMore c d w u) ∧
    (store.upcoming = none → other.upcoming = none →
      (0 < c.settings.windowMillis ∧ drainStart store w.now < w.deadline →
        0 < d.settings.windowMillis ∧ drainStart other u.now < u.deadline) →
      store.scripted ⊆ other.scripted → HidesMore c d w u) := by
  have hbenign : ∀ k, Exclusion.Benign store c.locals c.settings.fabricStart k →
      Exclusion.Benign other d.locals d.settings.fabricStart k := by
    intro k hk
    rw [← hfabric]
    exact hk.mono hstores (fun _ => LocalInterfaces.isManagement_of_subset hlocals hlocals' hnames)
      fun _ => LocalInterfaces.isLoopbackStyle_of_subset hlocals hlocals' hpatterns
  have hgeneral : c.lateChanges store w.now w.deadline ⊆ d.lateChanges other u.now u.deadline →
      HidesMore c d w u := by
    intro hlate
    rcases run_of_no_daemon hw hdaemon with ⟨o, v, hrun, rfl⟩
    rcases run_of_no_daemon hu hdaemon' with ⟨p, x, hrun', rfl⟩
    have hless := reportsLess_settled hrules hrules' hstores hbenign hlate
    exact ⟨_, v, _, x, hrun, hrun', fun k hk => (hless k).1 hk, fun k hk => (hless k).2.1 hk,
      fun k hk => (hless k).2.2 hk, passed_of_reportsLess hless⟩
  refine ⟨hgeneral, ?_⟩
  intro hkept hkept' hopens hscripted
  apply hgeneral
  by_cases hopen : 0 < c.settings.windowMillis ∧ drainStart store w.now < w.deadline
  · rw [lateChanges_of_scripted hkept hopen.1 hopen.2,
      lateChanges_of_scripted hkept' (hopens hopen).1 (hopens hopen).2]
    exact hscripted
  · rw [lateChanges_of_closed hopen]
    exact List.nil_subset _

/-!
# A route of a virtual network
-/

/-- A check that knows some local interfaces by their names. -/
def namedCheck (names : List String) : Check :=
  { plain with settings := { localPatterns := [] }, locals := ⟨names, []⟩ }

theorem ofNames_namedCheck (names : List String) :
    LocalInterfaces.ofNames .roomy names (namedCheck names).settings =
      .ok (namedCheck names).locals :=
  rfl

/-- A route that is not programmed, and one that is programmed and not accounted for. -/
def strayStore : Store :=
  (Store.empty.addRoute "10.0.0.0/24" "Ethernet4" "10.1.0.1").addProgrammed "10.0.5.0/24"

/-- The same routes, and a row that makes the second one a route of a virtual network. -/
def vnetStore : Store := strayStore.addVnetRoute "Vnet1" "10.0.5.0/24" "Ethernet0"

theorem hidesLess_vnetStore : strayStore.HidesLess vnetStore := by
  have hsame : ∀ {db : Database} {start : String} {names : List String},
      ¬(db = .appl ∧ start.toList <+: "VNET_ROUTE_TABLE:Vnet1:10.0.5.0/24".toList) →
      strayStore.SameRows vnetStore db start names :=
    fun h => (Store.sameRows_insert h).symm
  have hmore : ∀ key, strayStore.HasKey .appl key → vnetStore.HasKey .appl key :=
    fun _ h => Store.hasKey_insert.mpr (Or.inr h)
  constructor
  · exact hsame (by decide)
  · exact hsame (by decide)
  · exact hsame (by decide)
  · exact fun key _ => hmore key
  · exact fun key _ => hmore key
  · intro hdual
    cases hdual
  · intro hdual
    cases hdual
  · intro hdual
    cases hdual

theorem cycle_hides_more_of_vnetStore :
    exists o v p x, (World.around strayStore).run (namedCheck []).cycle = (.ok o, v) ∧
      (World.around vnetStore).run (namedCheck ["Ethernet4"]).cycle = (.ok p, x) ∧
      p.missedRoutes ⊆ o.missedRoutes ∧ p.unaccounted ⊆ o.unaccounted ∧
      ⟨.v4 #v[10, 0, 0, 0], 24, by decide⟩ ∈ o.missedRoutes ∧ p.passed = true := by
  have hstray : (World.around strayStore).IsCalm (namedCheck []).site strayStore :=
    World.isCalm_around rfl (by decide)
  have hvnet : (World.around vnetStore).IsCalm (namedCheck ["Ethernet4"]).site vnetStore :=
    World.isCalm_around rfl (by decide)
  rcases (cycle_hides_more hstray hvnet rfl rfl rfl rfl hidesLess_vnetStore rfl
    (ofNames_namedCheck []) (ofNames_namedCheck ["Ethernet4"]) (List.nil_subset _)
    (List.Subset.refl _)).2 rfl rfl id (List.Subset.refl _) with
    ⟨o, v, p, x, hrun, hrun', hroutes, _, hunaccounted, _⟩
  refine ⟨o, v, p, x, hrun, hrun', hroutes, hunaccounted, ?_, ?_⟩
  · rcases outcome_of_run hstray hrun with ⟨records, rfl⟩
    rw [lateChanges_of_scripted rfl (by decide) (by decide)]
    refine (mem_missedRoutes_settled rfl).mpr
      ⟨by decide +kernel, by decide +kernel, by decide +kernel, ?_⟩
    rw [← Exclusion.excluded_iff_benign]
    decide +kernel
  · rcases run_of_no_daemon hvnet rfl with ⟨q, y, hrun'', rfl⟩
    rw [hrun''] at hrun'
    cases hrun'
    rw [lateChanges_of_scripted rfl (by decide) (by decide)]
    decide +kernel

end Check
end RouteAudit
