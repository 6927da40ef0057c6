import RouteAudit.Proofs.RouteEntry.Written
import RouteAudit.Proofs.Store.Tables
import RouteAudit.Proofs.World.Window
import Mathlib.Data.List.TakeWhile
import Mathlib.Order.Basic

/-!
# Histories of a store

Another process writes and removes rows of the route table and route entries of the
hardware.  A history is the order in which it does so, with the times; after each action
the store is at a new moment.  Every entry that appears or disappears is a change that a
feed can tell.
-/

namespace RouteAudit

namespace Store

/-!
# Keys of a store
-/

def HasKey (s : Store) (db : Database) (key : String) : Prop := key ∈ (s.rows db).names

instance (s : Store) (db : Database) (key : String) : Decidable (s.HasKey db key) :=
  inferInstanceAs (Decidable (key ∈ (s.rows db).names))

theorem mem_listed {s : Store} {db : Database} {start key : String} :
    key ∈ s.listed db start ↔ s.HasKey db key ∧ start.toList <+: key.toList := by
  have hpattern : (start ++ "*").toList.reverse = '*' :: start.toList.reverse := by
    rw [String.toList_append, List.reverse_append]
    rfl
  unfold listed keys HasKey matchesPattern
  rw [List.mem_filter, hpattern]
  show key ∈ (s.rows db).names ∧ start.toList.reverse.reverse.isPrefixOf key.toList = true ↔ _
  rw [List.reverse_reverse, List.isPrefixOf_iff_prefix]

theorem rows_withRows_self (s : Store) (db : Database) (f : Table Fields → Table Fields) :
    (s.withRows db f).rows db = f (s.rows db) :=
  if_pos rfl

theorem rows_withRows_of_ne {s : Store} {db other : Database} (h : other ≠ db)
    (f : Table Fields → Table Fields) : (s.withRows db f).rows other = s.rows other :=
  if_neg h

theorem hasKey_insert {s : Store} {db other : Database} {key otherKey : String}
    {fields : List (String × String)} : (s.insert db key fields).HasKey other otherKey ↔
      (other = db ∧ otherKey = key) ∨ s.HasKey other otherKey := by
  unfold HasKey insert
  by_cases hdb : other = db
  · rw [hdb, rows_withRows_self]
    unfold Table.set Ascending.names
    rw [List.mem_map, List.mem_map]
    constructor
    · intro hparts
      rcases hparts with ⟨row, hrow, rfl⟩
      rcases Ascending.mem_put.mp hrow with rfl | ⟨hrow, _⟩
      · exact Or.inl ⟨rfl, rfl⟩
      · exact Or.inr ⟨row, hrow, rfl⟩
    · intro hcases
      rcases hcases with ⟨_, rfl⟩ | ⟨row, hrow, rfl⟩
      · exact ⟨_, Ascending.mem_put.mpr (Or.inl rfl), rfl⟩
      · by_cases hkey : row.1 = key
        · exact ⟨(key, .ofList fields), Ascending.mem_put.mpr (Or.inl rfl), hkey.symm⟩
        · exact ⟨row, Ascending.mem_put.mpr (Or.inr ⟨hrow, hkey⟩), rfl⟩
  · rw [rows_withRows_of_ne hdb]
    constructor
    · exact Or.inr
    · intro hcases
      rcases hcases with ⟨heq, _⟩ | h
      · exact absurd heq hdb
      · exact h

theorem hasKey_remove {s : Store} {db other : Database} {key otherKey : String} :
    (s.remove db key).HasKey other otherKey ↔
      s.HasKey other otherKey ∧ ¬(other = db ∧ otherKey = key) := by
  unfold HasKey remove
  by_cases hdb : other = db
  · rw [hdb, rows_withRows_self]
    unfold Ascending.erase Ascending.names
    rw [List.mem_map, List.mem_map]
    constructor
    · intro hparts
      rcases hparts with ⟨row, hrow, rfl⟩
      rcases Ascending.mem_filter.mp hrow with ⟨hrow, hne⟩
      refine ⟨⟨row, hrow, rfl⟩, ?_⟩
      intro hparts
      rcases hparts with ⟨_, hkey⟩
      exact of_decide_eq_true hne hkey
    · intro hparts
      rcases hparts with ⟨⟨row, hrow, rfl⟩, hne⟩
      exact ⟨row, Ascending.mem_filter.mpr
        ⟨hrow, decide_eq_true fun hkey => hne ⟨rfl, hkey⟩⟩, rfl⟩
  · rw [rows_withRows_of_ne hdb]
    constructor
    · intro h
      exact ⟨h, fun heq => hdb heq.1⟩
    · exact And.left

/-!
# What a store says about a destination
-/

/-- The hardware has a route entry for a destination. -/
def HoldsEntry (s : Store) (k : RouteKey) : Prop :=
  exists key, key ∈ s.listed .asic Tables.routeEntryStart ∧
    (RouteEntry.parseKey key).value = some k

/-- The route table has a row for a destination. -/
def HasRoute (s : Store) (k : RouteKey) : Prop :=
  exists key, key ∈ s.listed .appl (Database.tableStart .appl Tables.route) ∧
    (TableKey.routeChars? (Program.shortKey (Database.tableStart .appl Tables.route) key)).bind
      RouteKey.ofChars? = some k

end Store

/-!
# Actions
-/

/-- The tables that the other process changes. -/
inductive Place where
  | route
  | entry
  deriving DecidableEq, Repr

namespace Place

def database : Place → Database
  | .route => .appl
  | .entry => .asic

def start : Place → String
  | .route => Database.tableStart .appl Tables.route
  | .entry => Tables.routeEntryStart

def key (p : Place) (short : String) : String := p.start ++ short

end Place

inductive TableAction where
  | write (place : Place) (short : String) (fields : List (String × String))
  | remove (place : Place) (short : String)
  deriving DecidableEq, Repr

namespace TableAction

def apply : TableAction → Store → Store
  | .write place short fields, s => s.insert place.database (place.key short) fields
  | .remove place short, s => s.remove place.database (place.key short)

def changeOf (kind : ChangeKind) (key : String) : Option Change :=
  (RouteEntry.parseProgrammed key).value.map fun k => ⟨kind, k⟩

/-- The change that an action is to a subscriber.  Rows of the route table, entries that
are only written again, and entries for link-local destinations are none. -/
def change? : TableAction → Store → Option Change
  | .write .entry short _, s =>
      if s.HasKey .asic (Place.entry.key short) then none
      else changeOf .add (Place.entry.key short)
  | .remove .entry short, s =>
      if s.HasKey .asic (Place.entry.key short) then changeOf .remove (Place.entry.key short)
      else none
  | .write .route _ _, _ => none
  | .remove .route _, _ => none

theorem changeOf_eq {kind : ChangeKind} {key : String} {k : RouteKey}
    (hkey : (RouteEntry.parseKey key).value = some k) (hlocal : k.isLinkLocal = false) :
    changeOf kind key = some ⟨kind, k⟩ := by
  unfold changeOf
  rw [RouteEntry.parseProgrammed_eq_some_iff.mpr ⟨hkey, hlocal⟩]
  rfl

/-- An entry that appears is told as added. -/
theorem change?_of_appears {a : TableAction} {s : Store} {key : String} {k : RouteKey}
    (hkey : (RouteEntry.parseKey key).value = some k) (hlocal : k.isLinkLocal = false)
    (hbefore : ¬s.HasKey .asic key) (hafter : (a.apply s).HasKey .asic key) :
    a.change? s = some ⟨.add, k⟩ := by
  cases a with
  | write place short fields =>
      rcases Store.hasKey_insert.mp hafter with ⟨hdb, rfl⟩ | hheld
      · cases place with
        | route => cases hdb
        | entry =>
            exact (if_neg hbefore).trans (changeOf_eq hkey hlocal)
      · exact absurd hheld hbefore
  | remove place short =>
      exact absurd (Store.hasKey_remove.mp hafter).1 hbefore

/-- An entry that disappears is told as removed. -/
theorem change?_of_disappears {a : TableAction} {s : Store} {key : String} {k : RouteKey}
    (hkey : (RouteEntry.parseKey key).value = some k) (hlocal : k.isLinkLocal = false)
    (hbefore : s.HasKey .asic key) (hafter : ¬(a.apply s).HasKey .asic key) :
    a.change? s = some ⟨.remove, k⟩ := by
  cases a with
  | write place short fields =>
      exact absurd (Store.hasKey_insert.mpr (Or.inr hbefore)) hafter
  | remove place short =>
      by_cases hsame : Database.asic = place.database ∧ key = place.key short
      · rcases hsame with ⟨hdb, rfl⟩
        cases place with
        | route => cases hdb
        | entry =>
            exact (if_pos hbefore).trans (changeOf_eq hkey hlocal)
      · exact absurd (Store.hasKey_remove.mpr ⟨hbefore, hsame⟩) hafter

end TableAction

/-!
# Moments of a history
-/

structure History where
  origin : Store
  actions : List (Time × TableAction)
  ordered : actions.Pairwise fun a b => a.1 ≤ b.1

namespace History

/-- The store after some of the actions. -/
def storeAt (h : History) (n : Nat) : Store :=
  (h.actions.take n).foldl (fun s a => a.2.apply s) h.origin

/-- What an action tells, with its time. -/
def changeAt (h : History) (n : Nat) : Option (Time × Change) :=
  match h.actions[n]? with
  | none => none
  | some (time, a) => (a.change? (h.storeAt n)).map fun c => (time, c)

/-- What a subscriber is told who subscribes at a moment. -/
def changesFrom (h : History) (n : Nat) : List (Time × Change) :=
  (List.range' n (h.actions.length - n)).filterMap h.changeAt

/-- The number of actions before a time. -/
def countBefore (h : History) (t : Time) : Nat :=
  (h.actions.takeWhile fun a => a.1 < t).length

/-- The actions before a moment were done at a time. -/
def DoneBy (h : History) (t : Time) (n : Nat) : Prop :=
  n ≤ h.actions.length ∧ ∀ i time a, i < n → h.actions[i]? = some (time, a) → time ≤ t

/-- A moment and a time belong together: the actions until then are done and no others. -/
def Fits (h : History) (t : Time) (n : Nat) : Prop :=
  h.DoneBy t n ∧ ∀ i time a, n ≤ i → h.actions[i]? = some (time, a) → t ≤ time

variable {h : History} {k : RouteKey} {n m : Nat}

theorem storeAt_succ {time : Time} {a : TableAction} (ha : h.actions[n]? = some (time, a)) :
    h.storeAt (n + 1) = a.apply (h.storeAt n) := by
  unfold storeAt
  rw [List.take_add_one, ha, List.foldl_append]
  rfl

theorem storeAt_succ_of_none (ha : h.actions[n]? = none) : h.storeAt (n + 1) = h.storeAt n := by
  unfold storeAt
  rw [List.take_add_one, ha]
  simp

theorem changeAt_eq {time : Time} {a : TableAction} {c : Change}
    (ha : h.actions[n]? = some (time, a)) (hc : a.change? (h.storeAt n) = some c) :
    h.changeAt n = some (time, c) := by
  unfold changeAt
  rw [ha]
  dsimp only
  rw [hc]
  rfl

theorem changeAt_time {time : Time} {c : Change} (hc : h.changeAt n = some (time, c)) :
    exists a, h.actions[n]? = some (time, a) := by
  unfold changeAt at hc
  cases ha : h.actions[n]? with
  | none =>
      rw [ha] at hc
      cases hc
  | some action =>
      rcases action with ⟨other, a⟩
      rw [ha] at hc
      rcases Option.map_eq_some_iff.mp hc with ⟨d, _, heq⟩
      cases heq
      exact ⟨a, rfl⟩

theorem times_le {i j : Nat} {s t : Time} {a b : TableAction} (hij : i < j)
    (hi : h.actions[i]? = some (s, a)) (hj : h.actions[j]? = some (t, b)) : s ≤ t := by
  rcases List.getElem?_eq_some_iff.mp hi with ⟨hi', hai⟩
  rcases List.getElem?_eq_some_iff.mp hj with ⟨hj', haj⟩
  have hle := List.pairwise_iff_getElem.mp h.ordered i j hi' hj' hij
  rw [hai, haj] at hle
  exact hle

theorem pairwise_changesFrom (h : History) (n : Nat) :
    (h.changesFrom n).Pairwise fun a b => a.1 ≤ b.1 := by
  unfold changesFrom
  rw [List.pairwise_filterMap]
  refine List.Pairwise.imp ?_ List.pairwise_lt_range'
  intro i j hij c hc d hd
  rcases changeAt_time (c := c.2) hc with ⟨a, ha⟩
  rcases changeAt_time (c := d.2) hd with ⟨b, hb⟩
  exact times_le hij ha hb

theorem mem_changesFrom {i : Nat} {time : Time} {c : Change} (hni : n ≤ i)
    (hc : h.changeAt i = some (time, c)) : (time, c) ∈ h.changesFrom n := by
  rcases changeAt_time hc with ⟨a, ha⟩
  rcases List.getElem?_eq_some_iff.mp ha with ⟨hlength, _⟩
  unfold changesFrom
  refine List.mem_filterMap.mpr ⟨i, ?_, hc⟩
  rw [List.mem_range'_1]
  omega

/-- The actions before the end of a window are those with a smaller time. -/
theorem time_lt_of_lt_countBefore {i : Nat} {t time : Time} {a : TableAction}
    (hi : i < h.countBefore t) (ha : h.actions[i]? = some (time, a)) : time < t := by
  unfold countBefore at hi
  have hmem : (h.actions.takeWhile fun a => a.1 < t)[i]? = some (time, a) := by
    rcases List.takeWhile_prefix (l := h.actions) (fun a => decide (a.1 < t)) with ⟨rest, hrest⟩
    rw [← hrest, List.getElem?_append_left hi] at ha
    exact ha
  have hall := List.mem_takeWhile_imp (List.mem_of_getElem? hmem)
  exact of_decide_eq_true hall

theorem DoneBy.mono {s t : Time} (hst : s ≤ t) (hdone : h.DoneBy s n) : h.DoneBy t n :=
  ⟨hdone.1, fun i time a hi ha => Nat.le_trans (hdone.2 i time a hi ha) hst⟩

/-- What was done at a time is done before a later time. -/
theorem DoneBy.le_countBefore {s t : Time} (hst : s < t) (hdone : h.DoneBy s n) :
    n ≤ h.countBefore t := by
  have hearly : ∀ a ∈ h.actions.take n, decide (a.1 < t) = true := by
    intro a ha
    rcases List.mem_take_iff_getElem.mp ha with ⟨i, hi, heq⟩
    have hin : i < n := Nat.lt_of_lt_of_le hi (Nat.min_le_left _ _)
    have haction : h.actions[i]? = some (a.1, a.2) := by
      rw [List.getElem?_eq_some_iff]
      exact ⟨_, heq⟩
    exact decide_eq_true (Nat.lt_of_le_of_lt (hdone.2 i a.1 a.2 hin haction) hst)
  have hsplit : h.actions.takeWhile (fun a => a.1 < t) =
      h.actions.take n ++ (h.actions.drop n).takeWhile fun a => a.1 < t := by
    rw [← List.takeWhile_append_of_pos hearly, List.take_append_drop]
  unfold countBefore
  rw [hsplit, List.length_append, List.length_take, Nat.min_eq_left hdone.1]
  exact Nat.le_add_right n _

/-!
# Entries from moment to moment
-/

/-- An entry that nobody tells as added has not appeared. -/
theorem not_holdsEntry_of_no_add (hlocal : k.isLinkLocal = false) (hnm : n ≤ m)
    (hbefore : ¬(h.storeAt n).HoldsEntry k)
    (hnone : ∀ i time, n ≤ i → i < m → h.changeAt i ≠ some (time, ⟨.add, k⟩)) :
    ¬(h.storeAt m).HoldsEntry k := by
  induction m, hnm using Nat.le_induction with
  | base => exact hbefore
  | succ m hnm ih =>
      have hstill := ih fun i time hi him => hnone i time hi (Nat.lt_succ_of_lt him)
      cases ha : h.actions[m]? with
      | none =>
          rw [storeAt_succ_of_none ha]
          exact hstill
      | some action =>
          rcases action with ⟨time, a⟩
          rw [storeAt_succ ha]
          intro hparts
          rcases hparts with ⟨key, hlisted, hkey⟩
          rcases Store.mem_listed.mp hlisted with ⟨hheld, hstart⟩
          have hfresh : ¬(h.storeAt m).HasKey .asic key := by
            intro hold
            exact hstill ⟨key, Store.mem_listed.mpr ⟨hold, hstart⟩, hkey⟩
          have hchange := TableAction.change?_of_appears hkey hlocal hfresh hheld
          exact hnone m time hnm (Nat.lt_succ_self m) (changeAt_eq ha hchange)

/-- An entry that nobody tells as removed is still there. -/
theorem holdsEntry_of_no_remove (hlocal : k.isLinkLocal = false) (hnm : n ≤ m)
    (hbefore : (h.storeAt n).HoldsEntry k)
    (hnone : ∀ i time, n ≤ i → i < m → h.changeAt i ≠ some (time, ⟨.remove, k⟩)) :
    (h.storeAt m).HoldsEntry k := by
  induction m, hnm using Nat.le_induction with
  | base => exact hbefore
  | succ m hnm ih =>
      have hstill := ih fun i time hi him => hnone i time hi (Nat.lt_succ_of_lt him)
      cases ha : h.actions[m]? with
      | none =>
          rw [storeAt_succ_of_none ha]
          exact hstill
      | some action =>
          rcases action with ⟨time, a⟩
          rw [storeAt_succ ha]
          rcases hstill with ⟨key, hlisted, hkey⟩
          rcases Store.mem_listed.mp hlisted with ⟨hheld, hstart⟩
          by_cases hafter : (a.apply (h.storeAt m)).HasKey .asic key
          · exact ⟨key, Store.mem_listed.mpr ⟨hafter, hstart⟩, hkey⟩
          · have hchange := TableAction.change?_of_disappears hkey hlocal hheld hafter
            exact absurd (changeAt_eq ha hchange) (hnone m time hnm (Nat.lt_succ_self m))

/-!
# Processes that program what is intended
-/

/-- Whoever writes an entry does so while the route table has a row for its destination. -/
structure Disciplined (h : History) : Prop where
  origin : ∀ k, h.origin.HoldsEntry k → h.origin.HasRoute k
  writes : ∀ n time short fields k, h.actions[n]? = some (time, .write .entry short fields) →
    (RouteEntry.parseKey (Place.entry.key short)).value = some k → (h.storeAt n).HasRoute k

/-- What is programmed was intended at some time. -/
theorem Disciplined.hasRoute (hdisciplined : h.Disciplined) (hheld : (h.storeAt n).HoldsEntry k) :
    exists m, m ≤ n ∧ (h.storeAt m).HasRoute k := by
  induction n with
  | zero => exact ⟨0, Nat.le_refl 0, hdisciplined.origin k hheld⟩
  | succ n ih =>
      have hearlier : (h.storeAt n).HoldsEntry k → exists m, m ≤ n + 1 ∧ (h.storeAt m).HasRoute k := by
        intro hold
        rcases ih hold with ⟨m, hm, hroute⟩
        exact ⟨m, Nat.le_succ_of_le hm, hroute⟩
      cases ha : h.actions[n]? with
      | none =>
          rw [storeAt_succ_of_none ha] at hheld
          exact hearlier hheld
      | some action =>
          rcases action with ⟨time, a⟩
          rw [storeAt_succ ha] at hheld
          rcases hheld with ⟨key, hlisted, hkey⟩
          rcases Store.mem_listed.mp hlisted with ⟨hkeyHeld, hstart⟩
          have hold : (h.storeAt n).HasKey .asic key →
              exists m, m ≤ n + 1 ∧ (h.storeAt m).HasRoute k :=
            fun hbefore => hearlier ⟨key, Store.mem_listed.mpr ⟨hbefore, hstart⟩, hkey⟩
          cases a with
          | remove place short => exact hold (Store.hasKey_remove.mp hkeyHeld).1
          | write place short fields =>
              rcases Store.hasKey_insert.mp hkeyHeld with ⟨hdb, rfl⟩ | hbefore
              · cases place with
                | route => cases hdb
                | entry =>
                    exact ⟨n, Nat.le_succ n, hdisciplined.writes n time short fields k ha hkey⟩
              · exact hold hbefore

end History
end RouteAudit
