import RouteAudit.ControlPlane
import RouteAudit.Gathering
import RouteAudit.Proofs.RouteKey.Sets

/-!
# The tables of a store

What the rows of a store say at one moment: the intended routes, the hosts of the
interfaces, the programmed routes, and the tables that the exclusion rules consult.
-/

namespace RouteAudit
namespace Store

/-- The keys that start with a text. -/
def listed (s : Store) (db : Database) (start : String) : List String :=
  s.keys db (start ++ "*")

def tableRows (s : Store) (db : Database) (table : String) : List Row :=
  (s.listed db (db.tableStart table)).map fun key =>
    ⟨Program.shortKey (db.tableStart table) key, s.fieldsOf db key⟩

/-!
# The snapshot
-/

def programmed (s : Store) : KeySet :=
  .ofList (Logged.filterMap RouteEntry.parseProgrammed (s.listed .asic Tables.routeEntryStart)).value

def intended (s : Store) : Routes :=
  .ofList (Logged.filterMap IntendedRoute.ofTableRow (s.tableRows .appl Tables.route)).value

def interfaceHosts (s : Store) : KeySet :=
  .ofList (Logged.filterMap TableKey.parseInterface (Gathering.interfaceKeys
    (s.listed .appl (Database.tableStart .appl Tables.interface)))).value

def snapshot (s : Store) : Snapshot := ⟨s.intended, s.interfaceHosts, s.programmed⟩

/-!
# What the rules consult
-/

def isDualTor (s : Store) : Bool := Gathering.isDualTor (s.fieldsOf .config metadataKey)

/-- Whether the device metadata tells the routing daemon to wait for the hardware. -/
def isSuppressing (s : Store) : Bool :=
  ControlPlane.isSuppressing (s.fieldsOf .config metadataKey)

def vnetKeys (s : Store) (table : String) : List RouteKey :=
  (s.tableRows .appl table).filterMap fun row => TableKey.vnetRoute? row.key

def standbyHosts (s : Store) : List RouteKey :=
  ((s.tableRows .appl Tables.neighbor).filter Gathering.isStandby).filterMap fun row =>
    TableKey.neighbor? row.key

def cableHosts (s : Store) : List RouteKey :=
  (s.tableRows .config Tables.muxCable).flatMap fun row => (Gathering.cableAddressesOf row).value

def context (s : Store) (routes : Routes) (locals : LocalInterfaces) (fabricStart : String) :
    Exclusion.Context :=
  { routes, locals, fabricStart
    dualTor := s.isDualTor
    vnetRoutes := .ofList (s.vnetKeys Tables.vnetRoute ++ s.vnetKeys Tables.vnetTunnel)
    standbyNeighbors := .ofList (if s.isDualTor then s.standbyHosts else [])
    cableAddresses := .ofList (if s.isDualTor then s.cableHosts else []) }

/-!
# Listing
-/

theorem pairwise_names {α : Type} (t : Table α) :
    (Ascending.names t).Pairwise fun a b => a < b :=
  List.pairwise_map.mpr t.ascending

theorem pairwise_keys (s : Store) (db : Database) (pattern : String) :
    (s.keys db pattern).Pairwise fun a b => a < b :=
  (pairwise_names (s.rows db)).filter _

/-- Keys are listed in the order in which a scan reads their rows. -/
theorem mergeSort_keys (s : Store) (db : Database) (pattern : String) :
    (s.keys db pattern).mergeSort (fun a b => a ≤ b) = s.keys db pattern := by
  apply List.mergeSort_of_pairwise
  refine (s.pairwise_keys db pattern).imp ?_
  intro a b hab
  exact decide_eq_true (String.not_lt.mp (String.lt_asymm hab))

/-!
# Members
-/

theorem mem_filterMap {α β : Type} {f : α → Logged (Option β)} {items : List α} {b : β} :
    b ∈ (Logged.filterMap f items).value ↔ exists a, a ∈ items ∧ (f a).value = some b := by
  induction items with
  | nil => simp [Logged.filterMap]
  | cons a rest ih =>
      rw [Logged.filterMap, List.mem_append, ih, Option.mem_toList]
      constructor
      · intro hcases
        rcases hcases with ha | ⟨c, hc, hb⟩
        · exact ⟨a, List.mem_cons_self, ha⟩
        · exact ⟨c, List.mem_cons_of_mem a hc, hb⟩
      · intro hparts
        rcases hparts with ⟨c, hc, hb⟩
        rcases List.mem_cons.mp hc with rfl | hc
        · exact Or.inl hb
        · exact Or.inr ⟨c, hc, hb⟩

theorem ofTableRow_value (row : Row) : (IntendedRoute.ofTableRow row).value =
    (TableKey.parseRoute row.key).value.map fun k => (IntendedRoute.ofRow k row).value := by
  have hbind : ∀ {α β : Type} (x : Logged α) (f : α → Logged β),
      (x >>= f).value = (f x.value).value := fun _ _ => rfl
  unfold IntendedRoute.ofTableRow
  rw [hbind]
  cases (TableKey.parseRoute row.key).value with
  | none => rfl
  | some k => rfl

theorem mem_vnetKeys {s : Store} {table : String} {k : RouteKey} :
    k ∈ s.vnetKeys table ↔ exists row, row ∈ s.tableRows .appl table ∧
      TableKey.vnetRoute? row.key = some k :=
  List.mem_filterMap

theorem mem_standbyHosts {s : Store} {k : RouteKey} :
    k ∈ s.standbyHosts ↔ exists row, row ∈ s.tableRows .appl Tables.neighbor ∧
      Gathering.isStandby row = true ∧ TableKey.neighbor? row.key = some k := by
  unfold standbyHosts
  rw [List.mem_filterMap]
  constructor
  · intro hparts
    rcases hparts with ⟨row, hrow, hk⟩
    rcases List.mem_filter.mp hrow with ⟨hrow, hstandby⟩
    exact ⟨row, hrow, hstandby, hk⟩
  · intro hparts
    rcases hparts with ⟨row, hrow, hstandby, hk⟩
    exact ⟨row, List.mem_filter.mpr ⟨hrow, hstandby⟩, hk⟩

theorem cableAddressIn_value {row : Row} {field : String} {k : RouteKey} :
    (Gathering.cableAddressIn row field).value = some k ↔
      exists value, row.field? field = some value ∧ TableKey.cableAddress? value = some k := by
  unfold Gathering.cableAddressIn
  cases hfield : row.field? field with
  | none => simp [pure]
  | some value =>
      cases haddress : TableKey.cableAddress? value with
      | none => simp [haddress]
      | some l => simp [haddress, pure]

theorem mem_cableHosts {s : Store} {k : RouteKey} :
    k ∈ s.cableHosts ↔ exists row field value, row ∈ s.tableRows .config Tables.muxCable ∧
      (field = "soc_ipv4" ∨ field = "soc_ipv6") ∧ row.field? field = some value ∧
      TableKey.cableAddress? value = some k := by
  unfold cableHosts
  rw [List.mem_flatMap]
  constructor
  · intro hparts
    rcases hparts with ⟨row, hrow, hk⟩
    rcases mem_filterMap.mp hk with ⟨field, hfield, hvalue⟩
    rcases cableAddressIn_value.mp hvalue with ⟨value, hread, haddress⟩
    exact ⟨row, field, value, hrow, by simpa using hfield, hread, haddress⟩
  · intro hparts
    rcases hparts with ⟨row, field, value, hrow, hfield, hread, haddress⟩
    refine ⟨row, hrow, mem_filterMap.mpr ⟨field, by simpa using hfield, ?_⟩⟩
    exact cableAddressIn_value.mpr ⟨value, hread, haddress⟩

end Store
end RouteAudit
