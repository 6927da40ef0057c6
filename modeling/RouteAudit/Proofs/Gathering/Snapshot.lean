import RouteAudit.Proofs.Gathering.Reading
import RouteAudit.Proofs.Store.Views
import RouteAudit.Proofs.TableKey.Spelled
import RouteAudit.Proofs.Text.Items
import RouteAudit.Proofs.World.Points

/-!
# The snapshot of a store

A snapshot holds what the keys of three tables name, and what the rows of one of them say.  Of
several rows for one destination the one with the greatest key counts; keys are compared
character by character, which orders them as their bytes do.  Whatever else a store holds, also
in tables whose names only resemble those three, has no part in a snapshot.
-/

namespace RouteAudit

/-- The items of a field.  A row without the field has none. -/
inductive FieldLists : Option String → List (List Char) → Prop where
  | absent : FieldLists none []
  | present {text : String} {found : List (List Char)} : Text.Lists text.toList found →
      FieldLists (some text) found

theorem fieldLists_iff {value : Option String} {found : List (List Char)} :
    FieldLists value found ↔
      (match value with
        | some text => Text.items text.toList
        | none => []) = found := by
  cases value with
  | none =>
      constructor
      · intro h
        cases h
        rfl
      · rintro rfl
        exact FieldLists.absent
  | some text =>
      constructor
      · intro h
        cases h with
        | present hlists => exact Text.lists_iff.mp hlists
      · intro h
        exact FieldLists.present (Text.lists_iff.mpr h)

instance (value : Option String) (found : List (List Char)) : Decidable (FieldLists value found) :=
  decidable_of_iff _ fieldLists_iff.symm

/-- The store of a site can be read, and nothing changes it or stops the run meanwhile. -/
structure World.Still (w : World) (site : String) (store : Store) : Prop where
  tables : w.site site = .memory store
  healthy : store.failing = []
  unwatched : w.watched = false
  uncancelled : w.cancelAt = none
  unchanged : ∀ o ∈ w.outside, o.site ≠ site

namespace Store

variable {s : Store} {db : Database} {start key : String} {k : RouteKey} {r : IntendedRoute}
  {row : Row}

/-!
# What the rows of a store mean
-/

/-- A route entry of the hardware is filed for a destination. -/
def Programs (s : Store) (k : RouteKey) : Prop :=
  exists document dest, s.HasKey .asic ("ASIC_STATE:SAI_OBJECT_TYPE_ROUTE_ENTRY:" ++ document) ∧
    RouteEntry.destination? document.toList = some dest ∧ RouteKey.parse? dest = some k ∧
    k.isLinkLocal = false

/-- A host is the address of an interface that is programmed. -/
def Addresses (s : Store) (k : RouteKey) : Prop :=
  exists key, s.HasKey .appl ("INTF_TABLE:" ++ key) ∧ TableKey.NamesInterface key k ∧
    k.isLinkLocal = false

/-- A row of the route table is one for a destination. -/
def HasRowFor (s : Store) (key : String) (k : RouteKey) : Prop :=
  s.HasKey .appl ("ROUTE_TABLE:" ++ key) ∧ TableKey.NamesRoute key k ∧ k.isLinkLocal = false

/-- A row counts for a destination if none of the rows for it has a greater key. -/
structure Counts (s : Store) (key : String) (k : RouteKey) : Prop where
  row : s.HasRowFor key k
  greatest : ∀ other, s.HasRowFor other k → "ROUTE_TABLE:" ++ other ≤ "ROUTE_TABLE:" ++ key

/-- The interfaces and the next hops of a row of the route table. -/
structure RowLists (s : Store) (key : String) (interfaces nexthops : List (List Char)) : Prop where
  interfaces : FieldLists ((s.fieldsOf .appl ("ROUTE_TABLE:" ++ key)).get? "ifname") interfaces
  nexthops : FieldLists ((s.fieldsOf .appl ("ROUTE_TABLE:" ++ key)).get? "nexthop") nexthops

/-- An intended route has the interfaces and the next hops of the row that counts.  What is no
address among the next hops is dropped; the others stay in their order, also where they repeat. -/
inductive Intends (s : Store) : IntendedRoute → Prop where
  | intro {key : String} {k : RouteKey} {interfaces nexthops : List (List Char)} :
      s.Counts key k → s.RowLists key interfaces nexthops →
      Intends s ⟨k, interfaces.map String.ofList, nexthops.filterMap Address.ofChars?⟩

/-!
# Keys
-/

theorem exists_listed_iff {p : String → Prop} : (exists key, key ∈ s.listed db start ∧ p key) ↔
    exists short, s.HasKey db (start ++ short) ∧ p (start ++ short) := by
  constructor
  · intro h
    rcases h with ⟨key, hkey, hp⟩
    rcases mem_listed.mp hkey with ⟨hheld, hstart⟩
    rcases exists_short_of_prefix hstart with ⟨short, rfl⟩
    exact ⟨short, hheld, hp⟩
  · intro h
    rcases h with ⟨short, hheld, hp⟩
    exact ⟨start ++ short, mem_listed.mpr ⟨hheld, prefix_toList_append start short⟩, hp⟩

theorem mem_programmed_iff : k ∈ s.programmed ↔ s.Programs k := by
  unfold programmed Programs
  rw [KeySet.mem_ofList, mem_filterMap, exists_listed_iff]
  simp only [RouteEntry.parseProgrammed_eq_some_iff, RouteEntry.parseKey_eq_some_iff]
  constructor
  · intro h
    rcases h with ⟨short, hheld, ⟨document, dest, hshort, hdest, hk⟩, hlocal⟩
    rw [hshort] at hheld
    exact ⟨document, dest, hheld, hdest, hk, hlocal⟩
  · intro h
    rcases h with ⟨document, dest, hheld, hdest, hk, hlocal⟩
    exact ⟨document, hheld, ⟨document, dest, rfl, hdest, hk⟩, hlocal⟩

theorem mem_interfaceKeys : key ∈ Gathering.interfaceKeys
    (s.listed .appl (Database.tableStart .appl Tables.interface)) ↔
      s.HasKey .appl ("INTF_TABLE:" ++ key) := by
  unfold Gathering.interfaceKeys
  rw [List.mem_filterMap, exists_listed_iff]
  simp only [Option.map_eq_some_iff, Text.after?_eq_some_iff, String.toList_append,
    List.append_cancel_left_eq]
  constructor
  · intro h
    rcases h with ⟨short, hheld, chars, rfl, hkey⟩
    rw [String.ofList_toList] at hkey
    rw [← hkey]
    exact hheld
  · intro h
    exact ⟨key, h, key.toList, rfl, String.ofList_toList⟩

theorem mem_interfaceHosts_iff : k ∈ s.interfaceHosts ↔ s.Addresses k := by
  unfold interfaceHosts Addresses
  rw [KeySet.mem_ofList, mem_filterMap]
  simp only [mem_interfaceKeys, TableKey.parseInterface_eq_some_iff]

/-!
# Rows
-/

theorem hasRowFor_iff : s.HasRowFor key k ↔ exists row, row ∈ s.tableRows .appl Tables.route ∧
    row.key = key ∧ (TableKey.parseRoute key).value = some k := by
  rw [TableKey.parseRoute_eq_some_iff]
  constructor
  · intro h
    rcases h with ⟨hheld, hnames⟩
    have hrow : ⟨key, s.fieldsOf .appl ("ROUTE_TABLE:" ++ key)⟩ ∈
        s.tableRows .appl Tables.route := mem_tableRows.mpr ⟨hheld, rfl⟩
    exact ⟨_, hrow, rfl, hnames⟩
  · intro h
    rcases h with ⟨row, hrow, rfl, hnames⟩
    exact ⟨(mem_tableRows.mp hrow).1, hnames⟩

theorem mem_keys_intended_iff : k ∈ s.intended.keys ↔ exists key, s.HasRowFor key k := by
  have hkeys : k ∈ s.intended.keys ↔ (s.intended.route? k).isSome = true := by
    rw [Routes.mem_keys_iff_route?, Option.isSome_iff_exists]
  unfold intended at hkeys
  rw [Routes.route?_ofList, filter_filterMap_ofTableRow, List.getLast?_isSome, ne_eq,
    List.map_eq_nil_iff, List.filter_eq_nil_iff] at hkeys
  rw [intended, hkeys]
  simp only [hasRowFor_iff, decide_eq_true_eq, not_forall, not_not, exists_prop]
  constructor
  · intro h
    rcases h with ⟨row, hrow, hk⟩
    exact ⟨row.key, row, hrow, rfl, hk⟩
  · intro h
    rcases h with ⟨key, row, hrow, rfl, hk⟩
    exact ⟨row, hrow, hk⟩

theorem nexthop?_value (k : RouteKey) (item : List Char) :
    (IntendedRoute.nexthop? k item).value = Address.ofChars? item := by
  unfold IntendedRoute.nexthop?
  cases Address.ofChars? item with
  | none => rfl
  | some a => rfl

theorem ofRow_value (k : RouteKey) (row : Row) : (IntendedRoute.ofRow k row).value =
    ⟨k, (IntendedRoute.itemsOf row "ifname").map String.ofList,
      (IntendedRoute.itemsOf row "nexthop").filterMap Address.ofChars?⟩ := by
  have hnexthops := filterMap_value (IntendedRoute.nexthop? k) (IntendedRoute.itemsOf row "nexthop")
  simp only [nexthop?_value] at hnexthops
  rw [← hnexthops]
  rfl

theorem counts_iff : s.Counts key k ↔
    s.HasKey .appl ("ROUTE_TABLE:" ++ key) ∧ s.Overrides key k := by
  have hle : ∀ other : String, "ROUTE_TABLE:" ++ other ≤ "ROUTE_TABLE:" ++ key ↔ other ≤ key := by
    intro other
    rw [← not_lt, ← not_lt, append_lt_append_iff]
  constructor
  · intro h
    refine ⟨h.row.1, TableKey.parseRoute_eq_some_iff.mpr h.row.2, ?_⟩
    intro other hother hparsed
    exact (hle _).mp (h.greatest other.key (hasRowFor_iff.mpr ⟨other, hother, rfl, hparsed⟩))
  · intro h
    rcases h with ⟨hheld, hparsed, hgreatest⟩
    constructor
    · exact ⟨hheld, TableKey.parseRoute_eq_some_iff.mp hparsed⟩
    · intro other hother
      rcases hasRowFor_iff.mp hother with ⟨row, hrow, rfl, hparsed⟩
      exact (hle _).mpr (hgreatest row hrow hparsed)

instance : Decidable (s.Counts key k) :=
  decidable_of_iff _ counts_iff.symm

instance (interfaces nexthops : List (List Char)) :
    Decidable (s.RowLists key interfaces nexthops) :=
  decidable_of_iff (FieldLists _ interfaces ∧ FieldLists _ nexthops)
    ⟨fun h => ⟨h.1, h.2⟩, fun h => ⟨h.interfaces, h.nexthops⟩⟩

theorem rowLists_itemsOf (hrow : row ∈ s.tableRows .appl Tables.route) : s.RowLists row.key
    (IntendedRoute.itemsOf row "ifname") (IntendedRoute.itemsOf row "nexthop") := by
  have hfield : ∀ field, (s.fieldsOf .appl ("ROUTE_TABLE:" ++ row.key)).get? field =
      row.field? field := by
    intro field
    exact (congrArg (fun fields : Fields => fields.get? field) (mem_tableRows.mp hrow).2).symm
  constructor
  · rw [hfield]
    exact fieldLists_iff.mpr rfl
  · rw [hfield]
    exact fieldLists_iff.mpr rfl

/-- The row that counts is read as the intended route. -/
theorem route?_intended_of_counts {interfaces nexthops : List (List Char)}
    (hcounts : s.Counts key k) (hrow : s.RowLists key interfaces nexthops) : s.intended.route? k =
      some ⟨k, interfaces.map String.ofList, nexthops.filterMap Address.ofChars?⟩ := by
  rcases counts_iff.mp hcounts with ⟨hheld, hparsed, hgreatest⟩
  have hmem : ⟨key, s.fieldsOf .appl ("ROUTE_TABLE:" ++ key)⟩ ∈ s.tableRows .appl Tables.route :=
    mem_tableRows.mpr ⟨hheld, rfl⟩
  refine route?_intended_eq_some_iff.mpr ⟨_, hmem, hparsed, hgreatest, ?_⟩
  rw [ofRow_value]
  exact congrArg₂ _ (congrArg _ (fieldLists_iff.mp hrow.interfaces))
    (congrArg _ (fieldLists_iff.mp hrow.nexthops))

theorem mem_intended_iff : r ∈ s.intended ↔ s.Intends r := by
  have hroute : r ∈ s.intended ↔ s.intended.route? r.key = some r := by
    rw [Routes.route?_eq_some_iff]
    exact (and_iff_left rfl).symm
  rw [hroute]
  constructor
  · intro h
    rcases route?_intended_eq_some_iff.mp h with ⟨row, hrow, hparsed, hgreatest, hr⟩
    rw [← hr, ofRow_value]
    exact Intends.intro (counts_iff.mpr ⟨(mem_tableRows.mp hrow).1, hparsed, hgreatest⟩)
      (rowLists_itemsOf hrow)
  · intro h
    cases h with
    | intro hcounts hrow => exact route?_intended_of_counts hcounts hrow

end Store

/-!
# Runs
-/

namespace Gathering

variable {w : World} {site : String} {store : Store}

theorem holds_of_still (h : w.Still site store) :
    (Calm.mk site store w.deadline).Holds ⟨w.now, store.kept, w.feed site⟩ w :=
  ⟨⟨store, h.tables, rfl, rfl, rfl, rfl⟩, rfl, rfl, rfl, h.unwatched, h.uncancelled, h.unchanged⟩

theorem run_snapshot (h : w.Still site store) :
    exists v, w.run (snapshot site) = (.ok store.snapshot, v) := by
  have hensures : Program.Ensures (Calm.mk site store w.deadline).surroundings (snapshot site)
      ⟨w.now, store.kept, w.feed site⟩ fun taken _ => taken = store.snapshot :=
    Calm.ensures_snapshot.mpr rfl
  rcases (Calm.follows _).runs (Calm.serves_all h.healthy) hensures (holds_of_still h) with
    ⟨taken, v, hrun⟩
  rcases (Calm.follows _).ensured hensures (holds_of_still h) hrun with ⟨_, rfl, _⟩
  exact ⟨v, hrun⟩

/-- A snapshot is exactly what the store says: its programmed routes, its interfaces and its
intended routes with the interfaces and next hops of the rows that count.  It is the same for
every store with the same rows in those tables. -/
theorem snapshot_exact (h : w.Still site store) :
    exists taken v, w.run (snapshot site) = (.ok taken, v) ∧
      (∀ k, k ∈ taken.programmed ↔ store.Programs k) ∧
      (∀ k, k ∈ taken.interfaces ↔ store.Addresses k) ∧
      (∀ k, k ∈ taken.routes.keys ↔ exists key, store.HasRowFor key k) ∧
      (∀ r, r ∈ taken.routes ↔ store.Intends r) ∧
      ∀ u other, World.Still u site other →
        store.SameRows other .asic "ASIC_STATE:SAI_OBJECT_TYPE_ROUTE_ENTRY:" [] →
        store.SameRows other .appl "INTF_TABLE:" [] →
        store.SameRows other .appl "ROUTE_TABLE:" ["ifname", "nexthop"] →
        exists x, u.run (snapshot site) = (.ok taken, x) := by
  rcases run_snapshot h with ⟨v, hrun⟩
  refine ⟨store.snapshot, v, hrun, fun _ => Store.mem_programmed_iff,
    fun _ => Store.mem_interfaceHosts_iff, fun _ => Store.mem_keys_intended_iff,
    fun _ => Store.mem_intended_iff, ?_⟩
  intro u other hother hentries hinterfaces hroutes
  have hsame : store.snapshot = other.snapshot := by
    unfold Store.snapshot
    rw [Store.intended_congr hroutes, Store.interfaceHosts_congr hinterfaces,
      Store.programmed_congr hentries]
  rw [hsame]
  exact run_snapshot hother

/-- An interface, a programmed route, two rows for one destination, and rows of two tables whose
names are like that of theirs. -/
def likenedStore : Store :=
  (((((Store.empty.addInterface "Ethernet0" "10.1.0.0/31").addProgrammed "10.2.0.0/16").addRoute
    "10.0.0.0/24" "Ethernet0" "10.1.0.1").addRoute "VrfBlue:10.0.0.0/024"
      "Ethernet4,, Ethernet4" "10.1.0.2, garbage,10.1.0.2").insert
        .appl "ROUTE:10.0.0.0/24" []).insert .appl "ROUTE_TABLE_OLD:10.9.0.0/24" []

def likenedWorld : World := { sites := Table.set .empty "" (.memory likenedStore) }

theorem still_likenedWorld : likenedWorld.Still "" likenedStore where
  tables := World.site_setSite_self (w := {})
  healthy := rfl
  unwatched := rfl
  uncancelled := rfl
  unchanged _ ho := absurd ho List.not_mem_nil

theorem snapshot_exact_of_likenedStore :
    exists taken v, likenedWorld.run (snapshot "") = (.ok taken, v) ∧
      ⟨.v4 #v[10, 2, 0, 0], 16, by decide⟩ ∈ taken.programmed ∧
      ⟨.v4 #v[10, 1, 0, 0], 32, by decide⟩ ∈ taken.interfaces ∧
      ⟨⟨.v4 #v[10, 0, 0, 0], 24, by decide⟩, ["Ethernet4", "Ethernet4"],
        [.v4 #v[10, 1, 0, 2], .v4 #v[10, 1, 0, 2]]⟩ ∈ taken.routes ∧
      ⟨.v4 #v[10, 9, 0, 0], 24, by decide⟩ ∉ taken.routes.keys := by
  rcases snapshot_exact still_likenedWorld with
    ⟨taken, v, hrun, hprogrammed, hinterfaces, hkeys, hroutes, _⟩
  have hcounts : likenedStore.Counts "VrfBlue:10.0.0.0/024"
      ⟨.v4 #v[10, 0, 0, 0], 24, by decide⟩ := by
    decide +kernel
  have hrow : likenedStore.RowLists "VrfBlue:10.0.0.0/024"
      ["Ethernet4".toList, "Ethernet4".toList]
      ["10.1.0.2".toList, "garbage".toList, "10.1.0.2".toList] := by
    decide +kernel
  refine ⟨taken, v, hrun, ?_, ?_, (hroutes _).mpr (.intro hcounts hrow), ?_⟩
  · rw [hprogrammed, ← Store.mem_programmed_iff]
    decide +kernel
  · rw [hinterfaces, ← Store.mem_interfaceHosts_iff]
    decide +kernel
  · rw [hkeys, ← Store.mem_keys_intended_iff]
    decide +kernel

end Gathering
end RouteAudit
