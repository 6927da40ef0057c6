import RouteAudit.Proofs.Gathering.Snapshot
import RouteAudit.Proofs.RouteEntry.Written

/-!
# Notifications and the snapshot see the same routes

The database tells of a change in a channel that ends in the key, and a snapshot finds the same
key by its beginning.  Both decode the key, and they come to the same route: a change is read
from a notification exactly if the key alone would put its route into a snapshot.
-/

namespace RouteAudit
namespace RouteEntry

variable {key operation : String} {change : Change}

/-!
# Channels
-/

/-- The channel in which the database of an index tells of the changes of a key. -/
def channelOf (index : Nat) (key : String) : String :=
  "__keyspace@" ++ toString index ++ "__:" ++ key

/-- The first mark is found behind a text without underscores, whatever follows it. -/
theorem afterMark?_append {start : List Char} (hstart : '_' ∉ start) (text : List Char) :
    afterMark? (start ++ channelMark ++ text) = some text := by
  induction start with
  | nil =>
      have hmark : Text.after? channelMark ('_' :: '_' :: ':' :: text) = some text :=
        Text.after?_eq_some_iff.mpr rfl
      show afterMark? ('_' :: '_' :: ':' :: text) = some text
      rw [afterMark?, hmark]
  | cons c start ih =>
      rw [List.mem_cons, not_or] at hstart
      have hother : Text.after? channelMark (c :: (start ++ channelMark ++ text)) = none := by
        rw [Option.eq_none_iff_forall_ne_some]
        intro found hfound
        have hhead := congrArg List.head? (Text.after?_eq_some_iff.mp hfound)
        exact hstart.1 (Option.some.inj hhead).symm
      rw [List.cons_append, List.cons_append, afterMark?, hother]
      exact ih hstart.2

theorem underscore_not_mem_toString (n : Nat) : '_' ∉ (toString n).toList := by
  intro hmem
  have hdigits : (toString n).toList = Nat.toDigits 10 n := String.toList_ofList
  rw [hdigits] at hmem
  exact absurd (Nat.isDigit_of_mem_toDigits (by decide) (by decide) hmem) (by decide)

/-- A channel gives its key back, also where the key holds further marks. -/
theorem afterMark?_channelOf (index : Nat) (key : String) :
    afterMark? (channelOf index key).toList = some key.toList := by
  have hstart : '_' ∉ "keyspace@".toList ++ (toString index).toList := by
    rw [List.mem_append, not_or]
    exact ⟨by decide, underscore_not_mem_toString index⟩
  have hchannel : (channelOf index key).toList =
      '_' :: '_' ::
        ("keyspace@".toList ++ (toString index).toList ++ channelMark ++ key.toList) := by
    unfold channelOf channelMark
    rw [String.toList_append, String.toList_append, String.toList_append]
    rfl
  rw [hchannel]
  exact afterMark?_append hstart key.toList

/-!
# Operations
-/

theorem operationKind?_eq_add_iff : operationKind? operation = some .add ↔
    operation = "hset" ∨ operation = "hmset" ∨ operation = "hsetnx" := by
  unfold operationKind?
  split_ifs with hset hdel <;> simp [*]

theorem operationKind?_eq_remove_iff : operationKind? operation = some .remove ↔
    operation = "del" := by
  unfold operationKind?
  split_ifs with hset hdel
  · rcases hset with rfl | rfl | rfl <;> decide
  · simp [hdel]
  · simp [hdel]

/-- A notification is a change of the route that its key programs, if its operation makes one. -/
theorem parseNotification_eq_some_iff (index : Nat) :
    (parseNotification (channelOf index key) operation).value = some change ↔
      operationKind? operation = some change.kind ∧
        (parseProgrammed key).value = some change.key := by
  have hvalue : (parseNotification (channelOf index key) operation).value =
      (parseProgrammed key).value.bind fun k =>
        (operationKind? operation).map fun kind => ⟨kind, k⟩ := by
    unfold parseNotification
    rw [afterMark?_channelOf]
    dsimp only [bind]
    rw [String.ofList_toList]
    cases (parseProgrammed key).value with
    | none => rfl
    | some k =>
        cases operationKind? operation with
        | none =>
            simp only
            split <;> rfl
        | some kind => rfl
  rw [hvalue, Option.bind_eq_some_iff]
  simp only [Option.map_eq_some_iff]
  constructor
  · rintro ⟨k, hk, kind, hkind, rfl⟩
    exact ⟨hkind, hk⟩
  · rintro ⟨hkind, hk⟩
    exact ⟨change.key, hk, change.kind, hkind, rfl⟩

/-!
# The snapshot
-/

open Gathering

variable {w : World} {site : String} {store : Store}

/-- Of a store with a single key in the hardware's database, a snapshot takes the route of that
key. -/
theorem run_programmedRoutes (h : w.Still site store)
    (honly : ∀ other, store.HasKey .asic other ↔ other = key) :
    exists taken v, w.run (programmedRoutes site) = (.ok taken, v) ∧
      taken.items = (parseProgrammed key).value.toList := by
  have hprogrammed : store.programmed = .ofList (parseProgrammed key).value.toList := by
    apply Ascending.eq_of_mem_iff
    intro k
    rw [Store.mem_programmed_iff, KeySet.mem_ofList, Option.mem_toList,
      parseProgrammed_eq_some_iff, parseKey_eq_some_iff]
    unfold Store.Programs
    simp only [honly]
    constructor
    · intro hparts
      rcases hparts with ⟨document, dest, hkey, hdest, hk, hlocal⟩
      exact ⟨⟨document, dest, hkey.symm, hdest, hk⟩, hlocal⟩
    · intro hparts
      rcases hparts with ⟨⟨document, dest, hkey, hdest, hk⟩, hlocal⟩
      exact ⟨document, dest, hkey.symm, hdest, hk, hlocal⟩
  have hensures : Program.Ensures (Calm.mk site store w.deadline).surroundings
      (programmedRoutes site) ⟨w.now, store.kept, w.feed site⟩ fun taken _ =>
        taken = store.programmed :=
    ((Calm.mk site store w.deadline).reads.ensures_programmedRoutes trivial).mpr rfl
  rcases (Calm.follows _).runs (Calm.serves_all h.healthy) hensures (holds_of_still h) with
    ⟨taken, v, hrun⟩
  rcases (Calm.follows _).ensured hensures (holds_of_still h) hrun with ⟨_, rfl, _⟩
  refine ⟨store.programmed, v, hrun, ?_⟩
  rw [hprogrammed]
  cases (parseProgrammed key).value with
  | none => rfl
  | some k => rfl

/-- Whatever a key of the hardware's database holds, a notification of the key is an addition or a
removal of a route exactly if that route is what a snapshot finds where there is no other key. -/
theorem notified_iff_programmed (index : Nat) (h : w.Still site store)
    (honly : ∀ other, store.HasKey .asic other ↔ other = key) :
    exists taken v, w.run (programmedRoutes site) = (.ok taken, v) ∧
      (taken.items = [] ∨ exists r, taken.items = [r]) ∧
      (∀ operation r, (parseNotification (channelOf index key) operation).value = some ⟨.add, r⟩ ↔
        (operation = "hset" ∨ operation = "hmset" ∨ operation = "hsetnx") ∧ taken.items = [r]) ∧
      (∀ operation r,
        (parseNotification (channelOf index key) operation).value = some ⟨.remove, r⟩ ↔
          operation = "del" ∧ taken.items = [r]) ∧
      (taken.items = [] →
        ∀ operation, (parseNotification (channelOf index key) operation).value = none) ∧
      ∀ operation, operation ∉ ["hset", "hmset", "hsetnx", "del"] →
        (parseNotification (channelOf index key) operation).value = none := by
  rcases run_programmedRoutes h honly with ⟨taken, v, hrun, hitems⟩
  have hnone : ∀ operation, (∀ change : Change, operationKind? operation = some change.kind →
      (parseProgrammed key).value ≠ some change.key) →
        (parseNotification (channelOf index key) operation).value = none := by
    intro operation hno
    rw [Option.eq_none_iff_forall_ne_some]
    intro change hchange
    rcases (parseNotification_eq_some_iff index).mp hchange with ⟨hkind, hkey⟩
    exact hno change hkind hkey
  refine ⟨taken, v, hrun, ?_, ?_, ?_, ?_, ?_⟩
  · rw [hitems]
    cases (parseProgrammed key).value with
    | none => exact Or.inl rfl
    | some k => exact Or.inr ⟨k, rfl⟩
  · intro operation r
    rw [parseNotification_eq_some_iff, operationKind?_eq_add_iff, hitems,
      Option.toList_eq_singleton_iff]
  · intro operation r
    rw [parseNotification_eq_some_iff, operationKind?_eq_remove_iff, hitems,
      Option.toList_eq_singleton_iff]
  · intro hempty operation
    rw [hitems, Option.toList_eq_nil_iff] at hempty
    apply hnone
    intro change _ hkey
    rw [hempty] at hkey
    cases hkey
  · intro operation hoperation
    apply hnone
    intro change hkind
    cases hchange : change.kind with
    | add =>
        rw [hchange] at hkind
        rcases operationKind?_eq_add_iff.mp hkind with rfl | rfl | rfl <;> simp at hoperation
    | remove =>
        rw [hchange] at hkind
        simp [operationKind?_eq_remove_iff.mp hkind] at hoperation

/-- A document with a mark inside, blanks and a leading zero. -/
def markedKey : String :=
  "ASIC_STATE:SAI_OBJECT_TYPE_ROUTE_ENTRY:\x7b\"a__:b\": [null], \"dest\":\" 10.0.0.0/024\"\x7d"

def markedStore : Store := Store.empty.insert .asic markedKey []

theorem notified_iff_programmed_of_markedKey :
    exists taken v, World.run (programmedRoutes "")
        { sites := Table.set .empty "" (.memory markedStore) } = (.ok taken, v) ∧
      taken.items = [⟨.v4 #v[10, 0, 0, 0], 24, by decide⟩] ∧
      (parseNotification (channelOf 12 markedKey) "expire").value = none := by
  have hstill : World.Still { sites := Table.set .empty "" (.memory markedStore) } "" markedStore :=
    ⟨World.site_setSite_self (w := {}), rfl, rfl, rfl, fun _ ho => absurd ho List.not_mem_nil⟩
  have honly : ∀ other, markedStore.HasKey .asic other ↔ other = markedKey :=
    fun other => List.mem_singleton
  have hnotified : (parseNotification (channelOf 12 markedKey) "hmset").value =
      some ⟨.add, ⟨.v4 #v[10, 0, 0, 0], 24, by decide⟩⟩ := by
    decide +kernel
  rcases notified_iff_programmed 12 hstill honly with ⟨taken, v, hrun, _, hadd, _, _, hother⟩
  exact ⟨taken, v, hrun, ((hadd "hmset" _).mp hnotified).2, hother "expire" (by decide)⟩

end RouteEntry
end RouteAudit
