import RouteAudit.Proofs.RouteEntry.Written
import RouteAudit.Proofs.TableKey.Spelled
import RouteAudit.Gathering

/-!
# What becomes of a key

The keys of six tables name destinations.  A key that is read gives its destination, is left out
for a reason that is known, or is warned of; some keys are overlooked, without a reason and
without a warning.
-/

namespace RouteAudit

/-- The tables whose keys name destinations. -/
inductive KeyTable where
  | routes
  | interfaces
  | programmed
  | vnetRoutes
  | vnetTunnels
  | neighbors
  deriving DecidableEq

namespace KeyTable

variable {t : KeyTable} {key : String} {k : RouteKey}

def database : KeyTable → Database
  | .programmed => .asic
  | _ => .appl

def table : KeyTable → String
  | .routes => Tables.route
  | .interfaces => Tables.interface
  | .programmed => "ASIC_STATE:SAI_OBJECT_TYPE_ROUTE_ENTRY"
  | .vnetRoutes => Tables.vnetRoute
  | .vnetTunnels => Tables.vnetTunnel
  | .neighbors => Tables.neighbor

/-- What the keys of the table start with. -/
def start (t : KeyTable) : String := t.database.tableStart t.table

/-- Whether the keys are compared; those of the other tables are for the rules. -/
def isCompared : KeyTable → Bool
  | .routes | .interfaces | .programmed => true
  | .vnetRoutes | .vnetTunnels | .neighbors => false

/-- How a table is read, apart from its rows. -/
def reading : KeyTable → String → Logged (Option RouteKey)
  | .routes, key => TableKey.parseRoute key
  | .interfaces, key => TableKey.parseInterface key
  | .programmed, key => RouteEntry.parseProgrammed (Tables.routeEntryStart ++ key)
  | .vnetRoutes, key | .vnetTunnels, key => pure (TableKey.vnetRoute? key)
  | .neighbors, key => pure (TableKey.neighbor? key)

/-- The text of a key in a warning. -/
def shown : KeyTable → String → String
  | .programmed, key => Tables.routeEntryStart ++ key
  | _, key => key

/-!
# Destinations, reasons, and neither
-/

/-- A key names a destination. -/
def Names : KeyTable → String → RouteKey → Prop
  | .routes, key, k => TableKey.NamesRoute key k
  | .interfaces, key, k => TableKey.NamesInterface key k
  | .programmed, key, k => exists dest,
      RouteEntry.destination? key.toList = some dest ∧ RouteKey.parse? dest = some k
  | .vnetRoutes, key, k | .vnetTunnels, key, k => exists name text : String,
      key = name ++ ":" ++ text ∧ ':' ∉ name.toList ∧ RouteKey.parse? text = some k
  | .neighbors, key, k => exists interface text : String,
      key = interface ++ ":" ++ text ∧ ':' ∉ interface.toList ∧
        exists a, Address.parse? text = some a ∧ k = .host a

/-- The reasons to leave out a key: its destination is link-local, or it is that of an interface
without an address, or of the management port or the container bridge. -/
inductive Documented : KeyTable → String → Prop where
  | linkLocal {t : KeyTable} {key : String} {k : RouteKey} : t.isCompared = true →
      t.Names key k → k.isLinkLocal = true → Documented t key
  | noAddress {key : String} : ':' ∉ key.toList → Documented .interfaces key
  | unprogrammed {interface text : String} : interface = "eth0" ∨ interface = "docker0" →
      Documented .interfaces (interface ++ ":" ++ text)

/-- The keys of which nothing becomes: the name of a routing instance without a destination, and
a key for the rules that names no destination. -/
inductive Overlooked : KeyTable → String → Prop where
  | bareInstance {name : String} : ':' ∉ name.toList → Overlooked .routes ("Vrf" ++ name)
  | forRules {t : KeyTable} {key : String} : t.isCompared = false → (∀ k, ¬t.Names key k) →
      Overlooked t key

/-- What a reading says of a key. -/
inductive Fate (t : KeyTable) (key : String) : Logged (Option RouteKey) → Prop where
  | read {k : RouteKey} : t.Names key k → Fate t key ⟨some k, []⟩
  | documented : t.Documented key → Fate t key ⟨none, []⟩
  | overlooked : t.Overlooked key → Fate t key ⟨none, []⟩
  | warned {event : LogEvent} : event.level = .warn →
      ("key", .text (t.shown key)) ∈ event.fields → Fate t key ⟨none, [event]⟩

/-!
# Readings
-/

theorem fate_routes (key : String) : Fate .routes key (TableKey.parseRoute key) := by
  unfold TableKey.parseRoute
  cases hchars : TableKey.routeChars? key with
  | none =>
      refine .overlooked ?_
      unfold TableKey.routeChars? at hchars
      cases hstart : Text.after? "Vrf".toList key.toList with
      | none =>
          rw [hstart] at hchars
          cases hchars
      | some rest =>
          rw [hstart, Option.isSome_some, if_pos rfl] at hchars
          have hcolon : ':' ∉ key.toList :=
            Text.cut_eq_none_iff.mp (Option.map_eq_none_iff.mp hchars)
          have hkey : key = "Vrf" ++ String.ofList rest := by
            simp [← String.toList_inj, Text.after?_eq_some_iff.mp hstart]
          rw [hkey] at hcolon ⊢
          rw [String.toList_append] at hcolon
          exact .bareInstance fun h => hcolon (List.mem_append_right _ h)
  | some text =>
      dsimp only
      cases hk : RouteKey.ofChars? text with
      | none => exact .warned rfl List.mem_cons_self
      | some k =>
          have hnames : TableKey.NamesRoute key k := by
            apply TableKey.routeChars?_bind_iff.mp
            rw [hchars]
            exact hk
          dsimp only
          split
          · rename_i hlocal
            exact .documented (.linkLocal (t := .routes) rfl hnames hlocal)
          · exact .read hnames

theorem fate_interfaces (key : String) : Fate .interfaces key (TableKey.parseInterface key) := by
  unfold TableKey.parseInterface
  cases hcut : Text.cut ':' key.toList with
  | none => exact .documented (.noAddress (Text.cut_eq_none_iff.mp hcut))
  | some parts =>
      rcases parts with ⟨before, after⟩
      rcases TableKey.exists_behind_of_cut hcut with ⟨interface, text, rfl, hinterface, rfl, rfl⟩
      dsimp only
      split
      · rename_i hunprogrammed
        refine .documented (.unprogrammed ?_)
        by_contra h
        rw [not_or] at h
        exact TableKey.not_mem_unprogrammed_iff.mpr h hunprogrammed
      · rename_i hprogrammed
        rcases TableKey.not_mem_unprogrammed_iff.mp hprogrammed with ⟨hmanagement, hbridge⟩
        cases hk : TableKey.hostBeforeMask? text.toList with
        | none => exact .warned rfl List.mem_cons_self
        | some k =>
            have hnames : TableKey.NamesInterface (interface ++ ":" ++ text) k :=
              .intro hinterface hmanagement hbridge (TableKey.hostBeforeMask?_iff.mp hk)
            dsimp only
            split
            · rename_i hlocal
              exact .documented (.linkLocal (t := .interfaces) rfl hnames hlocal)
            · exact .read hnames

theorem fate_programmed (key : String) :
    Fate .programmed key (RouteEntry.parseProgrammed (Tables.routeEntryStart ++ key)) := by
  have hafter : Text.after? Tables.routeEntryStart.toList
      (Tables.routeEntryStart ++ key).toList = some key.toList :=
    Text.after?_eq_some_iff.mpr String.toList_append
  unfold RouteEntry.parseProgrammed RouteEntry.parseKey
  rw [hafter]
  dsimp only
  cases hdest : RouteEntry.destination? key.toList with
  | none => exact .warned rfl List.mem_cons_self
  | some dest =>
      dsimp only
      cases hk : RouteKey.parse? dest with
      | none => exact .warned rfl List.mem_cons_self
      | some k =>
          have hnames : Names .programmed key k := ⟨dest, hdest, hk⟩
          have hvalue : (pure (some k) : Logged (Option RouteKey)) >>= (fun x =>
              pure (x.filter fun k => !k.isLinkLocal)) =
                ⟨(some k).filter fun k => !k.isLinkLocal, []⟩ := rfl
          dsimp only
          rw [hvalue]
          cases hlocal : k.isLinkLocal with
          | true =>
              rw [Option.filter_some_neg (by simp [hlocal])]
              exact .documented (.linkLocal rfl hnames hlocal)
          | false =>
              rw [Option.filter_some_pos (by simp [hlocal])]
              exact .read hnames

/-- The keys for the rules are read without an event. -/
theorem exists_reading_forRules (h : t.isCompared = false) (key : String) :
    exists found, t.reading key = pure found ∧ ∀ k, found = some k ↔ t.Names key k := by
  cases t with
  | routes => cases h
  | interfaces => cases h
  | programmed => cases h
  | vnetRoutes => exact ⟨_, rfl, fun _ => TableKey.vnetRoute?_eq_some_iff⟩
  | vnetTunnels => exact ⟨_, rfl, fun _ => TableKey.vnetRoute?_eq_some_iff⟩
  | neighbors => exact ⟨_, rfl, fun _ => TableKey.neighbor?_eq_some_iff⟩

theorem fate_forRules (h : t.isCompared = false) (key : String) : t.Fate key (t.reading key) := by
  rcases exists_reading_forRules h key with ⟨found, hreading, hfound⟩
  rw [hreading]
  cases found with
  | none => exact .overlooked (.forRules h fun k hnames => nomatch (hfound k).mpr hnames)
  | some k => exact .read ((hfound k).mp rfl)

/-- Each key of each table is read, left out for a reason, warned of, or overlooked. -/
theorem fate (t : KeyTable) (key : String) : t.Fate key (t.reading key) := by
  cases t with
  | routes => exact fate_routes key
  | interfaces => exact fate_interfaces key
  | programmed => exact fate_programmed key
  | vnetRoutes => exact fate_forRules rfl key
  | vnetTunnels => exact fate_forRules rfl key
  | neighbors => exact fate_forRules rfl key

/-!
# Overlooked keys
-/

theorem routeChars?_bareInstance {name : String} (h : ':' ∉ name.toList) :
    TableKey.routeChars? ("Vrf" ++ name) = none := by
  have hstart : Text.after? "Vrf".toList ("Vrf" ++ name).toList = some name.toList :=
    Text.after?_eq_some_iff.mpr String.toList_append
  have hcolon : ':' ∉ ("Vrf" ++ name).toList := by
    rw [String.toList_append, List.mem_append, not_or]
    exact ⟨by decide, h⟩
  unfold TableKey.routeChars? TableKey.afterColon?
  rw [hstart, Option.isSome_some, if_pos rfl, Text.cut_eq_none_iff.mpr hcolon]
  rfl

theorem Overlooked.not_names (h : t.Overlooked key) (k : RouteKey) : ¬t.Names key k := by
  cases h with
  | bareInstance hname =>
      intro hnames
      have hsome := TableKey.routeChars?_bind_iff.mpr hnames
      rw [routeChars?_bareInstance hname] at hsome
      cases hsome
  | forRules _ hnames => exact hnames k

theorem Overlooked.not_documented (h : t.Overlooked key) : ¬t.Documented key := by
  intro hdocumented
  cases hdocumented with
  | linkLocal _ hnames _ => exact h.not_names _ hnames
  | noAddress _ =>
      cases h with
      | forRules hrules _ => cases hrules
  | unprogrammed _ =>
      cases h with
      | forRules hrules _ => cases hrules

/-- An overlooked key is not read, and nothing is said of it. -/
theorem Overlooked.reading (h : t.Overlooked key) : t.reading key = ⟨none, []⟩ := by
  cases h with
  | bareInstance hname =>
      show TableKey.parseRoute _ = _
      unfold TableKey.parseRoute
      rw [routeChars?_bareInstance hname]
      rfl
  | forRules hrules hnames =>
      rcases exists_reading_forRules hrules key with ⟨found, hreading, hfound⟩
      rw [hreading]
      cases found with
      | none => rfl
      | some k => exact absurd ((hfound k).mp rfl) (hnames k)

end KeyTable
end RouteAudit
