import RouteAudit.Proofs.Store.Rows

/-!
# Views of a store

A reader of a table sees the keys that start with the table's name and the separator, and the
fields that it looks at.  Two stores that show the same there give it the same answers, whatever
else they hold: rows of other tables, also of those whose names only go on from it, and other
fields.
-/

namespace RouteAudit
namespace Store

variable {s t : Store} {db : Database} {start key table : String} {names : List String}

/-- Two stores hold the same keys that start with a text, and there the same values in some
fields. -/
structure SameRows (s t : Store) (db : Database) (start : String) (names : List String) : Prop where
  keys : ∀ key, start.toList <+: key.toList → (s.HasKey db key ↔ t.HasKey db key)
  fields : ∀ key, start.toList <+: key.toList → ∀ name ∈ names,
    (s.fieldsOf db key).get? name = (t.fieldsOf db key).get? name

/-- Whether the row of some cable has a value in a field. -/
def HasCableValue (s : Store) (name value : String) : Prop :=
  exists port, s.HasKey .config ("MUX_CABLE|" ++ port) ∧
    (s.fieldsOf .config ("MUX_CABLE|" ++ port)).get? name = some value

/-- What the checker may see of a store: the keys of four tables and of the route entries, the
interfaces and next hops of the intended routes, two settings of the device, and the tables of
dual top-of-rack devices where the device is one. -/
structure ShowsSame (s t : Store) : Prop where
  routes : s.SameRows t .appl "ROUTE_TABLE:" ["ifname", "nexthop"]
  interfaces : s.SameRows t .appl "INTF_TABLE:" []
  vnetRoutes : s.SameRows t .appl "VNET_ROUTE_TABLE:" []
  vnetTunnels : s.SameRows t .appl "VNET_ROUTE_TUNNEL_TABLE:" []
  entries : s.SameRows t .asic "ASIC_STATE:SAI_OBJECT_TYPE_ROUTE_ENTRY:" []
  dualTor : s.isDualTor = t.isDualTor
  suppressing : s.isSuppressing = t.isSuppressing
  neighbors : s.isDualTor = true → s.SameRows t .appl "NEIGH_TABLE:" ["neigh"]
  /-- Only the values count, whatever the cables are called. -/
  cables : s.isDualTor = true → ∀ name value, (name = "soc_ipv4" ∨ name = "soc_ipv6") →
    (s.HasCableValue name value ↔ t.HasCableValue name value)

/-!
# Tables
-/

theorem listed_congr (h : s.SameRows t db start names) : s.listed db start = t.listed db start := by
  apply List.Pairwise.eq_of_mem_iff (pairwise_keys _ _ _) (pairwise_keys _ _ _)
  intro key
  show key ∈ s.listed db start ↔ key ∈ t.listed db start
  rw [mem_listed, mem_listed]
  constructor
  · intro hparts
    exact ⟨(h.keys key hparts.2).mp hparts.1, hparts.2⟩
  · intro hparts
    exact ⟨(h.keys key hparts.2).mpr hparts.1, hparts.2⟩

/-- A function of rows that looks at their keys and at some fields only. -/
def LooksAt {β : Type} (f : Row → β) (names : List String) : Prop :=
  ∀ a b : Row, a.key = b.key → (∀ name ∈ names, a.field? name = b.field? name) → f a = f b

theorem map_tableRows_congr {β : Type} {f : Row → β}
    (h : s.SameRows t db (db.tableStart table) names) (hf : LooksAt f names) :
    (s.tableRows db table).map f = (t.tableRows db table).map f := by
  unfold tableRows
  rw [List.map_map, List.map_map, ← listed_congr h]
  apply List.map_congr_left
  intro key hkey
  exact hf _ _ rfl (h.fields key (mem_listed.mp hkey).2)

theorem filterMap_tableRows_congr {β : Type} {f : Row → Option β}
    (h : s.SameRows t db (db.tableStart table) names) (hf : LooksAt f names) :
    (s.tableRows db table).filterMap f = (t.tableRows db table).filterMap f := by
  have hmap : ∀ rows : List Row, rows.filterMap f = (rows.map f).filterMap id := by
    intro rows
    rw [List.filterMap_map]
    rfl
  rw [hmap, hmap, map_tableRows_congr h hf]

theorem filterMap_value {α β : Type} (f : α → Logged (Option β)) (items : List α) :
    (Logged.filterMap f items).value = items.filterMap fun a => (f a).value := by
  induction items with
  | nil => rfl
  | cons a rest ih =>
      rw [Logged.filterMap, ih, List.filterMap_cons]
      cases (f a).value with
      | none => rfl
      | some b => rfl

/-!
# The snapshot
-/

/-- The route of a row depends on its key, its interfaces and its next hops. -/
theorem looksAt_ofTableRow :
    LooksAt (fun row => (IntendedRoute.ofTableRow row).value) ["ifname", "nexthop"] := by
  intro a b hkey hfields
  have hitems : ∀ name ∈ ["ifname", "nexthop"],
      IntendedRoute.itemsOf a name = IntendedRoute.itemsOf b name := by
    intro name hname
    unfold IntendedRoute.itemsOf
    rw [hfields name hname]
  have hrow : ∀ k, IntendedRoute.ofRow k a = IntendedRoute.ofRow k b := by
    intro k
    unfold IntendedRoute.ofRow
    rw [hitems "ifname" (by decide), hitems "nexthop" (by decide)]
  show (IntendedRoute.ofTableRow a).value = (IntendedRoute.ofTableRow b).value
  rw [ofTableRow_value, ofTableRow_value, hkey]
  simp only [hrow]

theorem intended_congr (h : s.SameRows t .appl "ROUTE_TABLE:" ["ifname", "nexthop"]) :
    s.intended = t.intended := by
  have hroutes : s.SameRows t .appl (Database.tableStart .appl Tables.route) _ := h
  unfold intended
  rw [filterMap_value, filterMap_value, filterMap_tableRows_congr hroutes looksAt_ofTableRow]

theorem interfaceHosts_congr (h : s.SameRows t .appl "INTF_TABLE:" names) :
    s.interfaceHosts = t.interfaceHosts := by
  have hlisted : s.listed .appl (Database.tableStart .appl Tables.interface) =
      t.listed .appl (Database.tableStart .appl Tables.interface) := listed_congr h
  unfold interfaceHosts
  rw [hlisted]

theorem programmed_congr
    (h : s.SameRows t .asic "ASIC_STATE:SAI_OBJECT_TYPE_ROUTE_ENTRY:" names) :
    s.programmed = t.programmed := by
  have hlisted : s.listed .asic Tables.routeEntryStart = t.listed .asic Tables.routeEntryStart :=
    listed_congr h
  unfold programmed
  rw [hlisted]

theorem snapshot_congr (h : s.ShowsSame t) : s.snapshot = t.snapshot := by
  unfold snapshot
  rw [intended_congr h.routes, interfaceHosts_congr h.interfaces, programmed_congr h.entries]

/-!
# What the rules consult
-/

theorem vnetKeys_congr (h : s.SameRows t .appl (Database.tableStart .appl table) []) :
    s.vnetKeys table = t.vnetKeys table := by
  apply filterMap_tableRows_congr h
  intro a b hkey _
  dsimp only
  rw [hkey]

theorem standbyHosts_congr (h : s.SameRows t .appl "NEIGH_TABLE:" ["neigh"]) :
    s.standbyHosts = t.standbyHosts := by
  unfold standbyHosts
  rw [List.filterMap_filter, List.filterMap_filter]
  apply filterMap_tableRows_congr h
  intro a b hkey hfields
  have hstandby : Gathering.isStandby a = Gathering.isStandby b := by
    unfold Gathering.isStandby
    rw [hfields "neigh" List.mem_cons_self]
  dsimp only
  rw [hstandby, hkey]

theorem mem_cableHosts_iff {k : RouteKey} : k ∈ s.cableHosts ↔ exists name value,
    (name = "soc_ipv4" ∨ name = "soc_ipv6") ∧ s.HasCableValue name value ∧
      TableKey.cableAddress? value = some k := by
  rw [mem_cableHosts]
  constructor
  · intro hparts
    rcases hparts with ⟨row, name, value, hrow, hname, hread, haddress⟩
    rcases mem_tableRows.mp hrow with ⟨hheld, hfields⟩
    refine ⟨name, value, hname, ⟨row.key, hheld, ?_⟩, haddress⟩
    exact (congrArg (fun fields : Fields => fields.get? name) hfields).symm.trans hread
  · intro hparts
    rcases hparts with ⟨name, value, hname, ⟨port, hheld, hread⟩, haddress⟩
    exact ⟨⟨port, _⟩, name, value, mem_tableRows.mpr ⟨hheld, rfl⟩, hname, hread, haddress⟩

theorem hasCableValue_congr {name value : String} (h : s.SameRows t .config "MUX_CABLE|" [name]) :
    s.HasCableValue name value ↔ t.HasCableValue name value := by
  apply exists_congr
  intro port
  have hstart : "MUX_CABLE|".toList <+: ("MUX_CABLE|" ++ port).toList := prefix_toList_append _ _
  rw [h.keys _ hstart, h.fields _ hstart name List.mem_cons_self]

theorem context_congr (h : s.ShowsSame t) (routes : Routes) (locals : LocalInterfaces)
    (fabricStart : String) :
    s.context routes locals fabricStart = t.context routes locals fabricStart := by
  have hneighbors : (if s.isDualTor then s.standbyHosts else []) =
      if s.isDualTor then t.standbyHosts else [] := by
    cases hdual : s.isDualTor with
    | false => rfl
    | true => exact standbyHosts_congr (h.neighbors hdual)
  have hcables : ∀ k, k ∈ (if s.isDualTor then s.cableHosts else []) ↔
      k ∈ if s.isDualTor then t.cableHosts else [] := by
    intro k
    cases hdual : s.isDualTor with
    | false => rfl
    | true =>
        show k ∈ s.cableHosts ↔ k ∈ t.cableHosts
        rw [mem_cableHosts_iff, mem_cableHosts_iff]
        apply exists_congr
        intro name
        apply exists_congr
        intro value
        apply and_congr_right
        intro hname
        rw [h.cables hdual name value hname]
  have hroutes : s.vnetKeys Tables.vnetRoute = t.vnetKeys Tables.vnetRoute :=
    vnetKeys_congr h.vnetRoutes
  have htunnels : s.vnetKeys Tables.vnetTunnel = t.vnetKeys Tables.vnetTunnel :=
    vnetKeys_congr h.vnetTunnels
  unfold context
  rw [hroutes, htunnels, ← h.dualTor, hneighbors, KeySet.ofList_congr hcables]

/-!
# Rows of other tables
-/

theorem SameRows.symm (h : s.SameRows t db start names) : t.SameRows s db start names where
  keys key hkey := (h.keys key hkey).symm
  fields key hkey name hname := (h.fields key hkey name hname).symm

theorem SameRows.trans {u : Store} (hst : s.SameRows t db start names)
    (htu : t.SameRows u db start names) : s.SameRows u db start names where
  keys key hkey := (hst.keys key hkey).trans (htu.keys key hkey)
  fields key hkey name hname :=
    (hst.fields key hkey name hname).trans (htu.fields key hkey name hname)

theorem ShowsSame.trans {u : Store} (hst : s.ShowsSame t) (htu : t.ShowsSame u) :
    s.ShowsSame u where
  routes := hst.routes.trans htu.routes
  interfaces := hst.interfaces.trans htu.interfaces
  vnetRoutes := hst.vnetRoutes.trans htu.vnetRoutes
  vnetTunnels := hst.vnetTunnels.trans htu.vnetTunnels
  entries := hst.entries.trans htu.entries
  dualTor := hst.dualTor.trans htu.dualTor
  suppressing := hst.suppressing.trans htu.suppressing
  neighbors hdual := (hst.neighbors hdual).trans (htu.neighbors (hst.dualTor.symm.trans hdual))
  cables hdual name value hname := (hst.cables hdual name value hname).trans
    (htu.cables (hst.dualTor.symm.trans hdual) name value hname)

/-- Only the rows of a store are shown. -/
theorem ShowsSame.of_rows (h : s.rows = t.rows) : s.ShowsSame t := by
  cases s
  cases t
  cases h
  have hrows : ∀ {a b : Store} {db : Database} {start : String} {names : List String},
      a.rows = b.rows → a.SameRows b db start names := by
    intro a b db start names hsame
    constructor
    · intro key _
      unfold HasKey
      rw [hsame]
    · intro key _ name _
      unfold fieldsOf
      rw [hsame]
  exact ⟨hrows rfl, hrows rfl, hrows rfl, hrows rfl, hrows rfl, rfl, rfl, fun _ => hrows rfl,
    fun _ _ _ _ => Iff.rfl⟩

/-- The beginnings of the keys that the checker lists. -/
def readStarts : Database → List String
  | .appl => ["ROUTE_TABLE:", "INTF_TABLE:", "VNET_ROUTE_TABLE:", "VNET_ROUTE_TUNNEL_TABLE:",
      "NEIGH_TABLE:"]
  | .asic => ["ASIC_STATE:SAI_OBJECT_TYPE_ROUTE_ENTRY:"]
  | .config => ["MUX_CABLE|"]

/-- Whether a row is none of those that the checker reads. -/
def IsForeign (db : Database) (key : String) : Prop :=
  (∀ start ∈ readStarts db, ¬start.toList <+: key.toList) ∧
    ¬(db = .config ∧ key = "DEVICE_METADATA|localhost")

instance : Decidable (IsForeign db key) :=
  inferInstanceAs (Decidable (_ ∧ _))

theorem sameRows_insert {other : Database} {fields : List (String × String)}
    (h : ¬(other = db ∧ start.toList <+: key.toList)) :
    (s.insert db key fields).SameRows s other start names where
  keys otherKey hstart := by
    rw [hasKey_insert]
    constructor
    · intro hcases
      rcases hcases with ⟨hdb, rfl⟩ | hheld
      · exact absurd ⟨hdb, hstart⟩ h
      · exact hheld
    · exact Or.inr
  fields otherKey hstart name _ := by
    rw [fieldsOf_insert_of_ne]
    intro hparts
    rcases hparts with ⟨hdb, rfl⟩
    exact h ⟨hdb, hstart⟩

/-- A row of a table that the checker does not read has no influence, also if the name of the
table goes on from that of one that it reads. -/
theorem showsSame_insert {fields : List (String × String)} (h : IsForeign db key) :
    (s.insert db key fields).ShowsSame s := by
  rcases h with ⟨hstarts, hdevice⟩
  have hrows : ∀ {other : Database} {start : String} {names : List String},
      start ∈ readStarts other → (s.insert db key fields).SameRows s other start names := by
    intro other start names hstart
    apply sameRows_insert
    intro hparts
    rcases hparts with ⟨rfl, hprefix⟩
    exact hstarts start hstart hprefix
  have hmetadata : (s.insert db key fields).fieldsOf .config metadataKey =
      s.fieldsOf .config metadataKey := by
    apply fieldsOf_insert_of_ne
    intro hparts
    rcases hparts with ⟨rfl, hkey⟩
    exact hdevice ⟨rfl, hkey.symm⟩
  constructor
  · exact hrows (by decide)
  · exact hrows (by decide)
  · exact hrows (by decide)
  · exact hrows (by decide)
  · exact hrows (by decide)
  · unfold isDualTor
    rw [hmetadata]
  · unfold isSuppressing
    rw [hmetadata]
  · exact fun _ => hrows (by decide)
  · exact fun _ name value _ => hasCableValue_congr (hrows (by decide))

end Store
end RouteAudit
