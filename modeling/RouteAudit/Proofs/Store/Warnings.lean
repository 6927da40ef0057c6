import RouteAudit.Proofs.Gathering.Snapshot
import RouteAudit.Proofs.Program.Warnings
import RouteAudit.Proofs.TableKey.Fates

/-!
# Rows and their traces

What is gathered from a store, the warnings included, is put together from its rows.  A row that
is read contributes its destination and a row that is warned of its warning; without a row that
does neither, all that is gathered is the same.
-/

namespace RouteAudit

namespace Logged

variable {α β γ : Type} {f : α → Logged (Option β)} {items : List α}

theorem filterMap_map (f : α → Logged (Option β)) (g : γ → α) (items : List γ) :
    filterMap f (items.map g) = filterMap (fun c => f (g c)) items := by
  induction items with
  | nil => rfl
  | cons c rest ih => rw [List.map_cons, filterMap, filterMap, ih]

/-- Items of which nothing becomes may be left out. -/
theorem filterMap_filter {p : α → Bool} (h : ∀ a, p a = false → f a = ⟨none, []⟩) :
    filterMap f (items.filter p) = filterMap f items := by
  induction items with
  | nil => rfl
  | cons a rest ih =>
      rw [filterMap]
      cases hp : p a with
      | true => rw [List.filter_cons_of_pos hp, filterMap, ih]
      | false =>
          rw [List.filter_cons_of_neg (Bool.eq_false_iff.mp hp), ih, h a hp]
          rfl

theorem mem_events_filterMap {event : LogEvent} :
    event ∈ (filterMap f items).events ↔ exists a, a ∈ items ∧ event ∈ (f a).events := by
  induction items with
  | nil => simp [filterMap]
  | cons a rest ih => simp [filterMap, ih]

end Logged

namespace Store

variable {s : Store} {t u : KeyTable} {db other : Database} {start key otherKey : String}
  {k : RouteKey} {row : Row} {event : LogEvent}

/-!
# What is gathered
-/

/-- The warnings while the snapshot is taken. -/
def snapshotWarnings (s : Store) : List LogEvent :=
  (Logged.filterMap RouteEntry.parseProgrammed (s.listed .asic Tables.routeEntryStart)).warnings ++
    (Logged.filterMap IntendedRoute.ofTableRow (s.tableRows .appl Tables.route)).warnings ++
      (Logged.filterMap TableKey.parseInterface (Gathering.interfaceKeys
        (s.listed .appl (Database.tableStart .appl Tables.interface)))).warnings

/-- The warnings while the tables of the rules are read. -/
def contextWarnings (s : Store) : List LogEvent :=
  if s.isDualTor then
    (Logged.filterMap (fun row => do return some (← Gathering.cableAddressesOf row))
      (s.tableRows .config Tables.muxCable)).warnings
  else
    []

def warnings (s : Store) : List LogEvent := s.snapshotWarnings ++ s.contextWarnings

/-- A store has a row for a key.  Of the neighbors only those of a dual top-of-rack device count
that are behind the standby tunnel. -/
def Files (s : Store) (t : KeyTable) (key : String) : Prop :=
  s.HasKey t.database (t.start ++ key) ∧ (t = .neighbors → s.isDualTor = true ∧
    Gathering.isStandby ⟨key, s.fieldsOf t.database (t.start ++ key)⟩ = true)

instance (s : Store) (t : KeyTable) (key : String) : Decidable (s.Files t key) :=
  inferInstanceAs (Decidable (_ ∧ (_ → _)))

/-- A destination is in the part of the snapshot, or of the tables of the rules, that a table is
for. -/
def Gathered (snapshot : Snapshot) (ctx : Exclusion.Context) : KeyTable → RouteKey → Prop
  | .routes, k => k ∈ snapshot.routes.keys
  | .interfaces, k => k ∈ snapshot.interfaces
  | .programmed, k => k ∈ snapshot.programmed
  | .vnetRoutes, k | .vnetTunnels, k => k ∈ ctx.vnetRoutes
  | .neighbors, k => k ∈ ctx.standbyNeighbors

/-- The same is gathered from two stores, with the same warnings. -/
structure GathersSame (s r : Store) : Prop where
  snapshot : r.snapshot = s.snapshot
  context : ∀ routes locals fabricStart,
    r.context routes locals fabricStart = s.context routes locals fabricStart
  warnings : r.warnings = s.warnings

/-!
# Rows
-/

def rowsOf (s : Store) (t : KeyTable) : List Row := s.tableRows t.database t.table

theorem listed_programmed : s.listed .asic Tables.routeEntryStart =
    (s.rowsOf .programmed).map fun row => Tables.routeEntryStart ++ row.key := by
  unfold rowsOf tableRows
  rw [List.map_map]
  refine (List.map_id _).symm.trans (List.map_congr_left fun key hkey => ?_)
  rcases exists_short_of_prefix (mem_listed.mp hkey).2 with ⟨short, rfl⟩
  exact congrArg (Tables.routeEntryStart ++ ·) (shortKey_append _ _).symm

theorem interfaceKeys_listed : Gathering.interfaceKeys
    (s.listed .appl (Database.tableStart .appl Tables.interface)) =
      (s.rowsOf .interfaces).map Row.key := by
  unfold rowsOf tableRows Gathering.interfaceKeys
  rw [List.map_map, ← List.filterMap_eq_map]
  refine List.filterMap_congr fun key hkey => ?_
  rcases exists_short_of_prefix (mem_listed.mp hkey).2 with ⟨short, rfl⟩
  rw [Text.after?_eq_some_iff.mpr String.toList_append, Option.map_some, String.ofList_toList]
  exact congrArg some (shortKey_append _ _).symm

theorem mem_rowsOf : row ∈ s.rowsOf t ↔ s.HasKey t.database (t.start ++ row.key) ∧
    row.fields = s.fieldsOf t.database (t.start ++ row.key) :=
  mem_tableRows

theorem Files.exists_row (h : s.Files t key) : exists row, row ∈ s.rowsOf t ∧ row.key = key ∧
    (t = .neighbors → s.isDualTor = true ∧ Gathering.isStandby row = true) :=
  ⟨⟨key, s.fieldsOf t.database (t.start ++ key)⟩, mem_rowsOf.mpr ⟨h.1, rfl⟩, rfl, h.2⟩

/-!
# What becomes of a row
-/

theorem programmed_eq : s.programmed = .ofList (Logged.filterMap
    (fun row => KeyTable.reading .programmed row.key) (s.rowsOf .programmed)).value := by
  unfold programmed
  rw [listed_programmed, Logged.filterMap_map]
  rfl

theorem interfaceHosts_eq : s.interfaceHosts = .ofList (Logged.filterMap
    (fun row => KeyTable.reading .interfaces row.key) (s.rowsOf .interfaces)).value := by
  unfold interfaceHosts
  rw [interfaceKeys_listed, Logged.filterMap_map]
  rfl

theorem snapshotWarnings_eq : s.snapshotWarnings =
    (Logged.filterMap (fun row => KeyTable.reading .programmed row.key)
        (s.rowsOf .programmed)).warnings ++
      (Logged.filterMap IntendedRoute.ofTableRow (s.rowsOf .routes)).warnings ++
        (Logged.filterMap (fun row => KeyTable.reading .interfaces row.key)
          (s.rowsOf .interfaces)).warnings := by
  unfold snapshotWarnings
  rw [listed_programmed, interfaceKeys_listed, Logged.filterMap_map, Logged.filterMap_map]
  rfl

theorem events_ofTableRow (row : Row) : exists more, (IntendedRoute.ofTableRow row).events =
    (KeyTable.reading .routes row.key).events ++ more :=
  ⟨_, rfl⟩

/-- The destination of a row that is read is gathered. -/
theorem gathered_of_files {routes : Routes} {locals : LocalInterfaces} {fabricStart : String}
    (h : s.Files t key) (hk : (t.reading key).value = some k) :
    Gathered s.snapshot (s.context routes locals fabricStart) t k := by
  rcases h.exists_row with ⟨row, hrow, rfl, hneighbor⟩
  cases t with
  | routes =>
      exact mem_keys_intended_iff.mpr ⟨row.key, hasRowFor_iff.mpr ⟨row, hrow, rfl, hk⟩⟩
  | interfaces =>
      show k ∈ s.interfaceHosts
      rw [interfaceHosts_eq, KeySet.mem_ofList, mem_filterMap]
      exact ⟨row, hrow, hk⟩
  | programmed =>
      show k ∈ s.programmed
      rw [programmed_eq, KeySet.mem_ofList, mem_filterMap]
      exact ⟨row, hrow, hk⟩
  | vnetRoutes =>
      show k ∈ (Ascending.ofList _ : KeySet)
      rw [KeySet.mem_ofList]
      exact List.mem_append_left _ (mem_vnetKeys.mpr ⟨row, hrow, hk⟩)
  | vnetTunnels =>
      show k ∈ (Ascending.ofList _ : KeySet)
      rw [KeySet.mem_ofList]
      exact List.mem_append_right _ (mem_vnetKeys.mpr ⟨row, hrow, hk⟩)
  | neighbors =>
      rcases hneighbor rfl with ⟨hdual, hstandby⟩
      show k ∈ (Ascending.ofList _ : KeySet)
      rw [KeySet.mem_ofList, hdual]
      exact mem_standbyHosts.mpr ⟨row, hrow, hstandby, hk⟩

theorem mem_warnings {β : Type} {f : Row → Logged (Option β)} {rows : List Row} (hrow : row ∈ rows)
    (hevent : event ∈ (f row).events) (hwarning : event.isWarning = true) :
    event ∈ (Logged.filterMap f rows).warnings :=
  List.mem_filter.mpr ⟨Logged.mem_events_filterMap.mpr ⟨row, hrow, hevent⟩, hwarning⟩

/-- What is said of a row is among the warnings. -/
theorem mem_warnings_of_files (h : s.Files t key) (hevent : event ∈ (t.reading key).events)
    (hwarning : event.isWarning = true) : event ∈ s.warnings := by
  rcases h.exists_row with ⟨row, hrow, rfl, -⟩
  have hcompared : event ∈ s.snapshotWarnings := by
    rw [snapshotWarnings_eq]
    cases t with
    | routes =>
        rcases events_ofTableRow row with ⟨more, hmore⟩
        refine List.mem_append_left _ (List.mem_append_right _ (mem_warnings hrow ?_ hwarning))
        rw [hmore]
        exact List.mem_append_left _ hevent
    | interfaces => exact List.mem_append_right _ (mem_warnings hrow hevent hwarning)
    | programmed =>
        exact List.mem_append_left _ (List.mem_append_left _ (mem_warnings hrow hevent hwarning))
    | vnetRoutes => exact absurd hevent List.not_mem_nil
    | vnetTunnels => exact absurd hevent List.not_mem_nil
    | neighbors => exact absurd hevent List.not_mem_nil
  exact List.mem_append_left _ hcompared

/-!
# Leaving out a row
-/

/-- The store without the row of a key. -/
def without (s : Store) (t : KeyTable) (key : String) : Store :=
  s.remove t.database (t.start ++ key)

theorem fieldsOf_remove_of_ne (h : ¬(other = db ∧ otherKey = key)) :
    (s.remove db key).fieldsOf other otherKey = s.fieldsOf other otherKey := by
  unfold fieldsOf remove
  by_cases hdb : other = db
  · subst hdb
    rw [rows_withRows_self, Table.get?_erase_of_ne fun hkey => h ⟨rfl, hkey⟩]
  · rw [rows_withRows_of_ne hdb]

theorem listed_remove : (s.remove db key).listed other start =
    (s.listed other start).filter fun listedKey => ¬(other = db ∧ listedKey = key) := by
  apply List.Pairwise.eq_of_mem_iff (pairwise_keys _ _ _) ((pairwise_keys _ _ _).filter _)
  intro listedKey
  show listedKey ∈ listed _ _ _ ↔ _
  rw [mem_listed, hasKey_remove, List.mem_filter, decide_eq_true_eq]
  show _ ↔ listedKey ∈ listed _ _ _ ∧ _
  rw [mem_listed, and_right_comm]

theorem not_prefix_start (t u : KeyTable) (h : u ≠ t) :
    ¬u.start.toList <+: t.start.toList := by
  revert h
  cases t <;> cases u <;> decide

/-- A key of one table is none of another one. -/
theorem eq_of_prefix_start (h : u.start.toList <+: (t.start ++ key).toList) : u = t := by
  by_contra htables
  rw [String.toList_append] at h
  rcases List.prefix_or_prefix_of_prefix h (List.prefix_append _ _) with hleft | hright
  · exact not_prefix_start t u htables hleft
  · exact not_prefix_start u t (Ne.symm htables) hright

theorem rowsOf_without (s : Store) (t u : KeyTable) (key : String) : (s.without t key).rowsOf u =
    (s.rowsOf u).filter fun row => ¬(u = t ∧ row.key = key) := by
  have hkeys : ∀ listedKey ∈ s.listed u.database u.start,
      (u.database = t.database ∧ listedKey = t.start ++ key ↔
        u = t ∧ Program.shortKey u.start listedKey = key) := by
    intro listedKey hlisted
    rcases exists_short_of_prefix (mem_listed.mp hlisted).2 with ⟨short, rfl⟩
    rw [shortKey_append]
    constructor
    · intro hparts
      rcases hparts with ⟨_, heq⟩
      obtain rfl : u = t := eq_of_prefix_start (heq ▸ prefix_toList_append _ _)
      refine ⟨rfl, ?_⟩
      rw [← shortKey_append u.start short, heq, shortKey_append]
    · rintro ⟨rfl, rfl⟩
      exact ⟨rfl, rfl⟩
  unfold rowsOf tableRows without
  rw [listed_remove, List.filter_map]
  show ((s.listed u.database u.start).filter _).map _ =
    ((s.listed u.database u.start).filter _).map _
  have hfilter : (s.listed u.database u.start).filter (fun listedKey =>
      ¬(u.database = t.database ∧ listedKey = t.start ++ key)) =
      (s.listed u.database u.start).filter fun listedKey =>
        ¬(u = t ∧ Program.shortKey u.start listedKey = key) :=
    List.filter_congr fun listedKey hlisted => by rw [decide_eq_decide, hkeys listedKey hlisted]
  rw [hfilter]
  refine List.map_congr_left fun listedKey hlisted => ?_
  rcases List.mem_filter.mp hlisted with ⟨hmem, hkept⟩
  rw [decide_eq_true_eq, ← hkeys listedKey hmem] at hkept
  exact congrArg _ (fieldsOf_remove_of_ne hkept)

section Without

variable (hreading : t.reading key = ⟨none, []⟩)
include hreading

theorem filterMap_without {β : Type} {f : Row → Logged (Option β)}
    (hf : ∀ row : Row, u.reading row.key = ⟨none, []⟩ → f row = ⟨none, []⟩) :
    Logged.filterMap f ((s.without t key).rowsOf u) = Logged.filterMap f (s.rowsOf u) := by
  rw [rowsOf_without]
  apply Logged.filterMap_filter
  intro row hrow
  rw [decide_eq_false_iff_not, not_not] at hrow
  rcases hrow with ⟨rfl, rfl⟩
  exact hf row hreading

theorem readings_without : Logged.filterMap (fun row => u.reading row.key)
    ((s.without t key).rowsOf u) =
      Logged.filterMap (fun row => u.reading row.key) (s.rowsOf u) :=
  filterMap_without hreading fun _ h => h

theorem routes_without : Logged.filterMap IntendedRoute.ofTableRow
    ((s.without t key).rowsOf .routes) =
      Logged.filterMap IntendedRoute.ofTableRow (s.rowsOf .routes) := by
  refine filterMap_without hreading fun row hrow => ?_
  have hparse : TableKey.parseRoute row.key = ⟨none, []⟩ := hrow
  unfold IntendedRoute.ofTableRow
  rw [hparse]
  rfl

theorem standbyHosts_without : (s.without t key).standbyHosts = s.standbyHosts := by
  have hhosts : ∀ r : Store, r.standbyHosts = (Logged.filterMap (fun row =>
      pure (if Gathering.isStandby row then TableKey.neighbor? row.key else none))
        (r.rowsOf .neighbors)).value := by
    intro r
    rw [filterMap_value]
    exact List.filterMap_filter
  rw [hhosts, hhosts]
  refine congrArg _ (filterMap_without hreading fun row hrow => ?_)
  have hnone : TableKey.neighbor? row.key = none := congrArg Logged.value hrow
  rw [hnone, ite_self]
  rfl

theorem vnetKeys_without :
    (s.without t key).vnetKeys Tables.vnetRoute = s.vnetKeys Tables.vnetRoute ∧
      (s.without t key).vnetKeys Tables.vnetTunnel = s.vnetKeys Tables.vnetTunnel := by
  have hkeys : ∀ r : Store,
      r.vnetKeys Tables.vnetRoute = (Logged.filterMap (fun row =>
        KeyTable.reading .vnetRoutes row.key) (r.rowsOf .vnetRoutes)).value ∧
      r.vnetKeys Tables.vnetTunnel = (Logged.filterMap (fun row =>
        KeyTable.reading .vnetTunnels row.key) (r.rowsOf .vnetTunnels)).value := by
    intro r
    rw [filterMap_value, filterMap_value]
    exact ⟨rfl, rfl⟩
  rw [(hkeys _).1, (hkeys _).2, (hkeys s).1, (hkeys s).2, readings_without hreading,
    readings_without hreading]
  exact ⟨rfl, rfl⟩

/-- Without a row of which nothing becomes the same is gathered. -/
theorem gathersSame_without : s.GathersSame (s.without t key) := by
  have hdatabase : .config ≠ t.database := by
    cases t <;> decide
  have hconfig : (s.without t key).rows .config = s.rows .config := by
    unfold without remove
    exact rows_withRows_of_ne hdatabase _
  have hfields : ∀ name, (s.without t key).fieldsOf .config name = s.fieldsOf .config name := by
    intro name
    unfold fieldsOf
    rw [hconfig]
  have hdual : (s.without t key).isDualTor = s.isDualTor := by
    unfold isDualTor
    rw [hfields]
  have hcables : (s.without t key).tableRows .config Tables.muxCable =
      s.tableRows .config Tables.muxCable := by
    unfold tableRows listed keys
    rw [hconfig]
    simp only [hfields]
  constructor
  · have hroutes : (s.without t key).intended = s.intended :=
      congrArg (fun found => Ascending.ofList (Logged.value found)) (routes_without hreading)
    unfold snapshot
    rw [hroutes, interfaceHosts_eq, programmed_eq, readings_without hreading,
      readings_without hreading, ← interfaceHosts_eq, ← programmed_eq]
  · intro routes locals fabricStart
    have hcableHosts : (s.without t key).cableHosts = s.cableHosts := by
      unfold cableHosts
      rw [hcables]
    unfold context
    rw [(vnetKeys_without hreading).1, (vnetKeys_without hreading).2,
      standbyHosts_without hreading, hcableHosts, hdual]
  · unfold warnings contextWarnings
    rw [snapshotWarnings_eq, readings_without hreading, readings_without hreading,
      routes_without hreading, hdual, hcables, ← snapshotWarnings_eq]

end Without

end Store
end RouteAudit
