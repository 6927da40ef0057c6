import RouteAudit.RouteEntry
import RouteAudit.Proofs.Json.ReadBack
import RouteAudit.Proofs.Text.Pieces
import Mathlib.Data.String.Basic

/-!
# Written route entries are read back

The key under which a route is filed gives its destination back, whatever text that is.  The
reader looks at the field of the destination only, and steps over the others.
-/

namespace RouteAudit
namespace RouteEntry

open Json Json.Reader

variable {fuel : Nat} {name text rest : List Char} {found : Option (List Char)} {dest : String}

/-!
# The written key
-/

theorem object_eq (dest : String) : object dest = .object [("dest", .string dest),
    ("switch_id", .string "oid:0x21000000000000"), ("vr", .string "oid:0x3000000000022")] := by
  have hswitch : ("dest" : String) < "switch_id" := by decide +kernel
  have hinstance : ("switch_id" : String) < "vr" := by decide +kernel
  apply ofFields_of_ascends
  simp only [List.pairwise_cons, List.mem_cons, List.not_mem_nil, or_false, forall_eq_or_imp,
    forall_eq, IsEmpty.forall_iff, implies_true, List.Pairwise.nil, and_true]
  exact ⟨⟨hswitch, String.lt_trans hswitch hinstance⟩, hinstance⟩

theorem toList_compact (dest : String) : (object dest).compact.toList =
    '\x7b' :: (quote "dest".toList ++ ':' :: (quote dest.toList ++ ',' ::
      (quote "switch_id".toList ++ ':' :: (quote "oid:0x21000000000000".toList ++ ',' ::
        (quote "vr".toList ++ ':' :: (quote "oid:0x3000000000022".toList ++ ['\x7d'])))))) := by
  rw [object_eq, compact, String.toList_ofList]
  simp only [chars, fieldChars, List.cons_append, List.append_assoc, List.nil_append]

/-!
# Reading fields
-/

theorem member?_quote (name rest : List Char) :
    member? (quote name ++ ':' :: rest) = some (name, rest) := by
  have hname := string?_written (length_lt_quoted name (':' :: rest)) (':' :: rest)
  unfold member?
  rw [quote_append, spaces_of_not_isSpace rfl]
  simp only [hname, Option.bind_eq_bind, Option.bind_some]
  rfl

theorem quoted?_quote (text rest : List Char) :
    quoted? (quote text ++ rest) = some (text, rest) := by
  unfold quoted?
  rw [quote_append, spaces_of_not_isSpace rfl]
  exact string?_written (length_lt_quoted text rest) rest

/-- The field of the destination is kept. -/
theorem fields?_dest (rest : List Char) :
    fields? (fuel + 1) none (quote "dest".toList ++ ':' :: (quote text ++ ',' :: rest)) =
      fields? fuel (some text) rest := by
  rw [fields?, member?_quote]
  simp only [Option.bind_eq_bind, Option.bind_some, if_true, Option.isSome_none,
    Bool.false_eq_true, if_false, quoted?_quote, Option.map_some]
  rfl

/-- A field of another name is passed over. -/
theorem fields?_other (hname : name ≠ "dest".toList) (rest : List Char) :
    fields? (fuel + 1) found (quote name ++ ':' :: (quote text ++ ',' :: rest)) =
      fields? fuel found rest := by
  rw [fields?, member?_quote]
  simp only [Option.bind_eq_bind, Option.bind_some, if_neg hname, skipValue?_quote,
    Option.map_some]
  rfl

theorem fields?_last (hname : name ≠ "dest".toList) :
    fields? (fuel + 1) found (quote name ++ ':' :: (quote text ++ ['\x7d'])) =
      found.map fun dest => (dest, []) := by
  rw [fields?, member?_quote]
  simp only [Option.bind_eq_bind, Option.bind_some, if_neg hname, skipValue?_quote,
    Option.map_some]
  rfl

/-!
# Reading the written key
-/

theorem document?_quote (rest : List Char) :
    document? ('\x7b' :: (quote text ++ rest)) =
      fields? ((quote text ++ rest).length + 1) none (quote text ++ rest) := by
  unfold document?
  rw [quote_append, spaces_of_not_isSpace rfl]
  simp only [spaces_of_not_isSpace (c := '"') rfl]
  rfl

theorem destination?_compact (dest : String) :
    destination? (object dest).compact.toList = some dest := by
  have hswitch : "switch_id".toList ≠ "dest".toList := by decide
  have hinstance : "vr".toList ≠ "dest".toList := by decide
  have hfuel : ∀ rest : List Char,
      exists fuel, (quote "dest".toList ++ rest).length + 1 = fuel + 3 := by
    intro rest
    refine ⟨rest.length + 4, ?_⟩
    have hname : (quote "dest".toList).length = 6 := by decide
    rw [List.length_append, hname]
    omega
  unfold destination?
  rw [toList_compact, document?_quote]
  rcases hfuel _ with ⟨fuel, hfuel⟩
  rw [hfuel, fields?_dest, fields?_other hswitch, fields?_last hinstance]
  simp only [Option.map_some, Option.bind_eq_bind, Option.bind_some, String.ofList_toList]
  rfl

/-!
# Reading keys
-/

theorem parseKey_value (key : String) : (parseKey key).value =
    (Text.after? Tables.routeEntryStart.toList key.toList).bind fun text =>
      (destination? text).bind RouteKey.parse? := by
  unfold parseKey
  cases Text.after? Tables.routeEntryStart.toList key.toList with
  | none => rfl
  | some text =>
      cases hdest : destination? text with
      | none => simp [hdest]
      | some dest =>
          cases hkey : RouteKey.parse? dest with
          | none => simp [hdest, hkey]
          | some k => simp [hdest, hkey, pure]

/-- A key names a route if it goes on from the common beginning with a document whose
destination is that of the route. -/
theorem parseKey_eq_some_iff {key : String} {k : RouteKey} : (parseKey key).value = some k ↔
    exists document dest, key = Tables.routeEntryStart ++ document ∧
      destination? document.toList = some dest ∧ RouteKey.parse? dest = some k := by
  simp only [parseKey_value, Option.bind_eq_some_iff, Text.after?_eq_some_iff]
  constructor
  · intro hparts
    rcases hparts with ⟨text, htext, dest, hdest, hk⟩
    refine ⟨String.ofList text, dest, ?_, ?_, hk⟩
    · rw [← String.toList_inj, String.toList_append, String.toList_ofList, htext]
    · rw [String.toList_ofList, hdest]
  · intro hparts
    rcases hparts with ⟨document, dest, rfl, hdest, hk⟩
    exact ⟨document.toList, String.toList_append, dest, hdest, hk⟩

theorem parseProgrammed_eq_some_iff {key : String} {k : RouteKey} :
    (parseProgrammed key).value = some k ↔
      (parseKey key).value = some k ∧ k.isLinkLocal = false := by
  have hvalue : (parseProgrammed key).value =
      (parseKey key).value.filter fun k => !k.isLinkLocal := rfl
  rw [hvalue, Option.filter_eq_some_iff, Bool.not_eq_true']

/-- The key that is written for a destination is read as the route key of its text. -/
theorem parseKey_keyOf (dest : String) : (parseKey (keyOf dest)).value = RouteKey.parse? dest := by
  have hstart : Text.after? Tables.routeEntryStart.toList (keyOf dest).toList =
      some (object dest).compact.toList :=
    Text.after?_eq_some_iff.mpr String.toList_append
  rw [parseKey_value, hstart, Option.bind_some, destination?_compact, Option.bind_some]

/-- Any text comes back from the key that is written for it, whatever characters it has: the key
is read as the text itself is.  The only fault that is ever found in such a key is that its
destination is no route key, and of that the warning shows the key and the text. -/
theorem destination_comes_back (dest : String) :
    (parseKey (keyOf dest)).value = RouteKey.parse? dest ∧
      (parseKey (keyOf dest)).events =
        (if (RouteKey.parse? dest).isSome then []
          else [.warn "Skipping ASIC route entry with bad destination"
            [("key", .text (keyOf dest)), ("dest", dest)]]) ∧
      ∀ other, keyOf dest = keyOf other → dest = other := by
  have hstart : ∀ text, Text.after? Tables.routeEntryStart.toList (keyOf text).toList =
      some (object text).compact.toList :=
    fun text => Text.after?_eq_some_iff.mpr String.toList_append
  refine ⟨parseKey_keyOf dest, ?_, ?_⟩
  · unfold parseKey
    rw [hstart]
    simp only [destination?_compact]
    cases RouteKey.parse? dest with
    | none => rfl
    | some k => rfl
  · intro other hkeys
    have hdocuments : (object dest).compact.toList = (object other).compact.toList := by
      apply Option.some.inj
      rw [← hstart, ← hstart, hkeys]
    have hdest := destination?_compact dest
    rw [hdocuments, destination?_compact] at hdest
    exact (Option.some.inj hdest).symm

end RouteEntry
end RouteAudit
