import RouteAudit.Proofs.Store.History
import RouteAudit.Proofs.Text.Pieces
import Mathlib.Data.List.Sort
import Mathlib.Data.String.Basic

/-!
# Rows of a table

The rows of a table are read in the order of their keys, and of several rows for one
destination the last one counts.  A row that is written is read in its own table and in no
other.
-/

namespace RouteAudit

/-!
# Keys of rows
-/

theorem append_lt_append_iff {start s t : String} : start ++ s < start ++ t ↔ s < t := by
  have hchars : ∀ chars : List Char,
      chars ++ s.toList < chars ++ t.toList ↔ s.toList < t.toList := by
    intro chars
    induction chars with
    | nil => rfl
    | cons c rest ih =>
        rw [List.cons_append, List.cons_append, List.cons_lt_cons_iff]
        simp [ih]
  rw [String.lt_iff_toList_lt, String.toList_append, String.toList_append, hchars]
  rfl

theorem shortKey_append (start short : String) :
    Program.shortKey start (start ++ short) = short := by
  unfold Program.shortKey
  rw [Text.after?_eq_some_iff.mpr String.toList_append]
  exact String.ofList_toList

theorem prefix_toList_append (start short : String) :
    start.toList <+: (start ++ short).toList := by
  rw [String.toList_append]
  exact List.prefix_append _ _

theorem exists_short_of_prefix {start key : String} (h : start.toList <+: key.toList) :
    exists short, key = start ++ short := by
  rcases h with ⟨chars, hchars⟩
  refine ⟨String.ofList chars, ?_⟩
  rw [← String.toList_inj, String.toList_append, String.toList_ofList, hchars]

namespace Store

variable {s : Store} {db other : Database} {table key otherKey start : String} {row : Row}
  {fields : List (String × String)} {k : RouteKey} {r : IntendedRoute}

/-!
# Rows in order
-/

theorem mem_tableRows : row ∈ s.tableRows db table ↔
    s.HasKey db (db.tableStart table ++ row.key) ∧
      row.fields = s.fieldsOf db (db.tableStart table ++ row.key) := by
  unfold tableRows
  rw [List.mem_map]
  constructor
  · intro hparts
    rcases hparts with ⟨key, hkey, rfl⟩
    rcases mem_listed.mp hkey with ⟨hheld, hstart⟩
    rcases exists_short_of_prefix hstart with ⟨short, rfl⟩
    rw [shortKey_append]
    exact ⟨hheld, rfl⟩
  · intro hparts
    rcases hparts with ⟨hheld, hfields⟩
    refine ⟨_, mem_listed.mpr ⟨hheld, prefix_toList_append _ _⟩, ?_⟩
    rw [shortKey_append, ← hfields]

theorem pairwise_tableRows (s : Store) (db : Database) (table : String) :
    (s.tableRows db table).Pairwise fun a b => a.key < b.key := by
  unfold tableRows
  rw [List.pairwise_map]
  refine (s.pairwise_keys db _).imp_of_mem ?_
  intro a b ha hb hab
  rcases exists_short_of_prefix (mem_listed.mp ha).2 with ⟨short, rfl⟩
  rcases exists_short_of_prefix (mem_listed.mp hb).2 with ⟨other, rfl⟩
  rw [shortKey_append, shortKey_append]
  exact append_lt_append_iff.mp hab

theorem eq_of_mem_tableRows {a b : Row} (ha : a ∈ s.tableRows db table)
    (hb : b ∈ s.tableRows db table) (hkey : a.key = b.key) : a = b := by
  rcases a with ⟨short, fields⟩
  rcases b with ⟨other, others⟩
  obtain rfl : short = other := hkey
  have hfields : fields = others :=
    (mem_tableRows.mp ha).2.trans (mem_tableRows.mp hb).2.symm
  rw [hfields]

/-- A row is the last of those with a property if none of them has a greater key. -/
theorem getLast?_filter_eq_some_iff {p : Row → Bool} :
    ((s.tableRows db table).filter p).getLast? = some row ↔
      row ∈ s.tableRows db table ∧ p row = true ∧
        ∀ other ∈ s.tableRows db table, p other = true → other.key ≤ row.key := by
  have hascending := (s.pairwise_tableRows db table).filter p
  have hlast : ∀ {last : Row}, ((s.tableRows db table).filter p).getLast? = some last →
      last ∈ s.tableRows db table ∧ p last = true ∧
        ∀ other ∈ s.tableRows db table, p other = true → other.key ≤ last.key := by
    intro last h
    rcases List.mem_filter.mp (List.mem_of_getLast? h) with ⟨hmem, hp⟩
    refine ⟨hmem, hp, ?_⟩
    intro other hother hpother
    rcases List.getLast?_eq_some_iff.mp h with ⟨before, hbefore⟩
    rw [hbefore] at hascending
    have hfiltered := List.mem_filter.mpr ⟨hother, hpother⟩
    rw [hbefore] at hfiltered
    rcases List.mem_append.mp hfiltered with hmem | hmem
    · exact le_of_lt ((List.pairwise_append.mp hascending).2.2 _ hmem _ List.mem_cons_self)
    · rw [List.mem_singleton.mp hmem]
  constructor
  · exact hlast
  · intro hparts
    rcases hparts with ⟨hmem, hp, hgreatest⟩
    cases hfound : ((s.tableRows db table).filter p).getLast? with
    | none =>
        rw [List.getLast?_eq_none_iff] at hfound
        have hfiltered := List.mem_filter.mpr ⟨hmem, hp⟩
        rw [hfound] at hfiltered
        exact absurd hfiltered List.not_mem_nil
    | some last =>
        rcases hlast hfound with ⟨hlastmem, hlastp, hleast⟩
        rw [eq_of_mem_tableRows hlastmem hmem]
        exact le_antisymm (hgreatest last hlastmem hlastp) (hleast row hmem hp)

/-!
# The row that counts
-/

theorem filter_filterMap_ofTableRow (rows : List Row) (k : RouteKey) :
    ((Logged.filterMap IntendedRoute.ofTableRow rows).value.filter fun r => r.key = k) =
      (rows.filter fun row => (TableKey.parseRoute row.key).value = some k).map fun row =>
        (IntendedRoute.ofRow k row).value := by
  induction rows with
  | nil => rfl
  | cons row rest ih =>
      rw [Logged.filterMap, List.filter_append, ih, ofTableRow_value]
      cases hkey : (TableKey.parseRoute row.key).value with
      | none => simp [hkey]
      | some l =>
          have hl : (IntendedRoute.ofRow l row).value.key = l := rfl
          by_cases heq : l = k
          · subst heq
            simp [hkey, hl]
          · simp [hkey, hl, heq]

/-- Of the rows for a destination the one with the greatest key says how it is reached. -/
theorem route?_intended_eq_some_iff : s.intended.route? k = some r ↔
    exists row, row ∈ s.tableRows .appl Tables.route ∧
      (TableKey.parseRoute row.key).value = some k ∧
      (∀ other ∈ s.tableRows .appl Tables.route,
        (TableKey.parseRoute other.key).value = some k → other.key ≤ row.key) ∧
      (IntendedRoute.ofRow k row).value = r := by
  unfold intended
  rw [Routes.route?_ofList, filter_filterMap_ofTableRow, List.getLast?_map, Option.map_eq_some_iff]
  apply exists_congr
  intro row
  rw [getLast?_filter_eq_some_iff]
  simp only [decide_eq_true_eq, and_assoc]

/-!
# Writing a row
-/

theorem fieldsOf_insert_self :
    (s.insert db key fields).fieldsOf db key = .ofList fields := by
  unfold fieldsOf insert
  rw [rows_withRows_self, Table.get?_set_self]
  rfl

theorem fieldsOf_insert_of_ne (h : ¬(other = db ∧ otherKey = key)) :
    (s.insert db key fields).fieldsOf other otherKey = s.fieldsOf other otherKey := by
  unfold fieldsOf insert
  by_cases hdb : other = db
  · subst hdb
    rw [rows_withRows_self, Table.get?_set_of_ne fun hkey => h ⟨rfl, hkey⟩]
  · rw [rows_withRows_of_ne hdb]

theorem listed_insert (h : ¬(other = db ∧ start.toList <+: key.toList)) :
    (s.insert db key fields).listed other start = s.listed other start := by
  apply List.Pairwise.eq_of_mem_iff (pairwise_keys _ _ _) (pairwise_keys _ _ _)
  intro listedKey
  show listedKey ∈ listed _ _ _ ↔ listedKey ∈ listed _ _ _
  rw [mem_listed, mem_listed, hasKey_insert]
  constructor
  · intro hparts
    rcases hparts with ⟨⟨hdb, rfl⟩ | hheld, hstart⟩
    · exact absurd ⟨hdb, hstart⟩ h
    · exact ⟨hheld, hstart⟩
  · intro hparts
    exact ⟨Or.inr hparts.1, hparts.2⟩

theorem tableRows_insert (h : ¬(other = db ∧ (other.tableStart table).toList <+: key.toList)) :
    (s.insert db key fields).tableRows other table = s.tableRows other table := by
  unfold tableRows
  rw [listed_insert h]
  apply List.map_congr_left
  intro listedKey hlisted
  rw [fieldsOf_insert_of_ne]
  intro hparts
  rcases hparts with ⟨hdb, rfl⟩
  exact h ⟨hdb, (mem_listed.mp hlisted).2⟩

theorem mem_tableRows_insert :
    row ∈ (s.insert db (db.tableStart table ++ key) fields).tableRows db table ↔
      row = ⟨key, .ofList fields⟩ ∨ (row ∈ s.tableRows db table ∧ row.key ≠ key) := by
  rw [mem_tableRows, mem_tableRows, hasKey_insert]
  rcases row with ⟨short, value⟩
  by_cases hkey : short = key
  · subst hkey
    rw [fieldsOf_insert_self]
    simp
  · have hne : db.tableStart table ++ short ≠ db.tableStart table ++ key := by
      intro heq
      apply hkey
      have hshort := congrArg (Program.shortKey (db.tableStart table)) heq
      rwa [shortKey_append, shortKey_append] at hshort
    rw [fieldsOf_insert_of_ne fun hparts => hne hparts.2]
    simp [hkey, hne]

/-!
# Writing a row of the route table
-/

/-- A store with a row of the route table. -/
def withRoute (s : Store) (key : String) (fields : List (String × String)) : Store :=
  s.insert .appl (Database.tableStart .appl Tables.route ++ key) fields

theorem not_prefix_of_route (hstart : ¬start.toList <+: (Database.tableStart .appl Tables.route).toList)
    (hroute : ¬(Database.tableStart .appl Tables.route).toList <+: start.toList) :
    ¬start.toList <+: (Database.tableStart .appl Tables.route ++ key).toList := by
  rw [String.toList_append]
  intro hprefix
  rcases List.prefix_or_prefix_of_prefix hprefix (List.prefix_append _ _) with h | h
  · exact hstart h
  · exact hroute h

theorem tableRows_withRoute
    (hstart : ¬(db.tableStart table).toList <+: (Database.tableStart .appl Tables.route).toList)
    (hroute : ¬(Database.tableStart .appl Tables.route).toList <+: (db.tableStart table).toList) :
    (s.withRoute key fields).tableRows db table = s.tableRows db table :=
  tableRows_insert fun hparts => not_prefix_of_route hstart hroute hparts.2

theorem programmed_withRoute : (s.withRoute key fields).programmed = s.programmed := by
  unfold programmed withRoute
  rw [listed_insert fun hparts => absurd hparts.1 (by decide)]

/-- The rules consult no row of the route table but the one that counts for a key. -/
theorem context_withRoute {routes : Routes} {locals : LocalInterfaces} {fabricStart : String} :
    (s.withRoute key fields).context routes locals fabricStart =
      s.context routes locals fabricStart := by
  have hdual : (s.withRoute key fields).isDualTor = s.isDualTor := by
    unfold isDualTor withRoute
    rw [fieldsOf_insert_of_ne fun hparts => absurd hparts.1 (by decide)]
  unfold context vnetKeys standbyHosts cableHosts
  rw [hdual, tableRows_withRoute (by decide) (by decide),
    tableRows_withRoute (by decide) (by decide), tableRows_withRoute (by decide) (by decide),
    tableRows_withRoute (by decide) (by decide)]

/-- A key stands for a destination, and no row for that destination has a greater one. -/
def Overrides (s : Store) (key : String) (k : RouteKey) : Prop :=
  (TableKey.parseRoute key).value = some k ∧
    ∀ other ∈ s.tableRows .appl Tables.route,
      (TableKey.parseRoute other.key).value = some k → other.key ≤ key

instance : Decidable (s.Overrides key k) :=
  inferInstanceAs (Decidable (_ ∧ ∀ other ∈ s.tableRows .appl Tables.route, _ = _ → _))

/-- What a written row says is what counts for the destinations that it overrides. -/
theorem route?_withRoute (s : Store) (key : String) (fields : List (String × String))
    (k : RouteKey) : (s.withRoute key fields).intended.route? k =
    if s.Overrides key k then some (IntendedRoute.ofRow k ⟨key, .ofList fields⟩).value
    else s.intended.route? k := by
  unfold withRoute
  split
  · rename_i hlast
    rcases hlast with ⟨hkey, hgreatest⟩
    apply route?_intended_eq_some_iff.mpr
    refine ⟨⟨key, .ofList fields⟩, mem_tableRows_insert.mpr (Or.inl rfl), hkey, ?_, rfl⟩
    intro other hother hparsed
    rcases mem_tableRows_insert.mp hother with rfl | ⟨hother, _⟩
    · exact le_refl _
    · exact hgreatest other hother hparsed
  · rename_i hlast
    apply Option.ext
    intro r
    rw [route?_intended_eq_some_iff, route?_intended_eq_some_iff]
    constructor
    · intro hparts
      rcases hparts with ⟨row, hrow, hparsed, hgreatest, hr⟩
      rcases mem_tableRows_insert.mp hrow with rfl | ⟨hrow, hne⟩
      · -- the written row would be the last one
        exfalso
        apply hlast
        refine ⟨hparsed, ?_⟩
        intro other hother hparsedother
        by_cases hkey : other.key = key
        · exact le_of_eq hkey
        · exact hgreatest other (mem_tableRows_insert.mpr (Or.inr ⟨hother, hkey⟩)) hparsedother
      · refine ⟨row, hrow, hparsed, ?_, hr⟩
        intro other hother hparsedother
        by_cases hkey : other.key = key
        · rw [hkey] at hparsedother ⊢
          exact hgreatest _ (mem_tableRows_insert.mpr (Or.inl rfl)) hparsedother
        · exact hgreatest other (mem_tableRows_insert.mpr (Or.inr ⟨hother, hkey⟩)) hparsedother
    · intro hparts
      rcases hparts with ⟨row, hrow, hparsed, hgreatest, hr⟩
      have hne : row.key ≠ key := by
        rintro rfl
        exact hlast ⟨hparsed, hgreatest⟩
      refine ⟨row, mem_tableRows_insert.mpr (Or.inr ⟨hrow, hne⟩), hparsed, ?_, hr⟩
      intro other hother hparsedother
      rcases mem_tableRows_insert.mp hother with rfl | ⟨hother, _⟩
      · by_contra hless
        apply hlast
        refine ⟨hparsedother, ?_⟩
        intro earlier hearlier hparsedearlier
        exact le_trans (hgreatest earlier hearlier hparsedearlier) (le_of_not_ge hless)
      · exact hgreatest other hother hparsedother

end Store
end RouteAudit
