import RouteAudit.TableKey
import RouteAudit.Proofs.RouteKey.Canonical
import Mathlib.Data.String.Basic

/-!
# Spelled destinations

The keys of each table that name a destination, and the texts of the destination inside them.
What stands in front of it ends at the first colon, also where the destination is an address
with colons of its own.
-/

namespace RouteAudit
namespace TableKey

variable {key text name : String} {k : RouteKey} {a : Address}

/-- A key of the route table is the text of its destination, behind the name of a routing
instance or not. -/
inductive NamesRoute : String → RouteKey → Prop where
  | plain {key : String} {k : RouteKey} : RouteKey.parse? key = some k → NamesRoute key k
  | qualified {name dest : String} {k : RouteKey} : ':' ∉ name.toList →
      RouteKey.parse? dest = some k → NamesRoute ("Vrf" ++ name ++ ":" ++ dest) k

/-- A text is that of an address, with a mask or not, and the mask does not count. -/
inductive NamesHost : String → RouteKey → Prop where
  | bare {text : String} {a : Address} : Address.parse? text = some a → NamesHost text (.host a)
  | masked {text : String} {a : Address} (mask : String) : Address.parse? text = some a →
      NamesHost (text ++ "/" ++ mask) (.host a)

/-- A key of the interface table is an address behind an interface that is programmed. -/
inductive NamesInterface : String → RouteKey → Prop where
  | intro {interface text : String} {k : RouteKey} : ':' ∉ interface.toList →
      interface ≠ "eth0" → interface ≠ "docker0" → NamesHost text k →
      NamesInterface (interface ++ ":" ++ text) k

/-!
# What stands in front
-/

theorem toList_separated (before after : String) {sep : String} {c : Char} (h : sep.toList = [c]) :
    (before ++ sep ++ after).toList = before.toList ++ c :: after.toList := by
  rw [String.toList_append, String.toList_append, h, List.append_assoc, List.singleton_append]

theorem toList_behind (name text : String) :
    (name ++ ":" ++ text).toList = name.toList ++ ':' :: text.toList :=
  toList_separated name text rfl

theorem cut_behind (h : ':' ∉ name.toList) :
    Text.cut ':' (name ++ ":" ++ text).toList = some (name.toList, text.toList) := by
  rw [toList_behind]
  exact Text.cut_append text.toList h

theorem exists_behind_of_cut {before after : List Char}
    (h : Text.cut ':' key.toList = some (before, after)) : exists name text : String,
      key = name ++ ":" ++ text ∧ ':' ∉ name.toList ∧ name.toList = before ∧
        text.toList = after := by
  rcases Text.cut_eq_some h with ⟨hkey, hbefore⟩
  exists String.ofList before, String.ofList after
  constructor
  · rw [← String.toList_inj, toList_behind, String.toList_ofList, String.toList_ofList]
    exact hkey
  · rw [String.toList_ofList, String.toList_ofList]
    exact ⟨hbefore, rfl, rfl⟩

theorem afterColon?_behind (h : ':' ∉ name.toList) :
    afterColon? (name ++ ":" ++ text) = some text.toList := by
  unfold afterColon?
  rw [cut_behind h]
  rfl

/-!
# Keys of the route table
-/

/-- Blanks, colons, dots and digits are all that a key can start with. -/
theorem start_of_ofChars? {c : Char} {rest : List Char}
    (h : RouteKey.ofChars? (c :: rest) = some k) : Text.isBlank c = true ∨ Address.IsHexChar c := by
  have hstart : ∀ before address more : List Char, (∀ d ∈ before, Text.isBlank d = true) →
      Address.ofChars? address = some k.address → c :: rest = before ++ (address ++ more) →
      Text.isBlank c = true ∨ Address.IsHexChar c := by
    intro before address more hbefore haddress htext
    cases before with
    | nil =>
        cases address with
        | nil =>
            exact absurd rfl (Address.ne_nil_of_ofChars? haddress)
        | cons d address =>
            cases htext
            exact Or.inr (Address.IsHexChar.of_ofChars? haddress c List.mem_cons_self)
    | cons d before =>
        cases htext
        exact Or.inl (hbefore c List.mem_cons_self)
  have hspelling := RouteKey.spelling_of_ofChars? h
  generalize htext : c :: rest = whole at hspelling
  cases hspelling with
  | host hbefore _ haddress _ =>
      rw [List.append_assoc] at htext
      exact hstart _ _ _ hbefore haddress htext
  | measured plus zeros hbefore _ haddress _ =>
      rw [List.append_assoc, List.append_assoc] at htext
      exact hstart _ _ _ hbefore haddress htext

theorem ofChars?_of_vrf (rest : List Char) : RouteKey.ofChars? ("Vrf".toList ++ rest) = none := by
  cases h : RouteKey.ofChars? ("Vrf".toList ++ rest) with
  | none =>
      rfl
  | some k =>
      cases start_of_ofChars? h with
      | inl hblank => exact absurd hblank (by decide)
      | inr hhex => exact absurd hhex (by decide)

/-- Where a key starts with `Vrf`, so does what stands in front of its first colon. -/
theorem exists_vrf_of_after? {front dest : String} {rest : List Char} (hfront : ':' ∉ front.toList)
    (h : Text.after? "Vrf".toList (front ++ ":" ++ dest).toList = some rest) :
    exists name, front = "Vrf" ++ name ∧ ':' ∉ name.toList := by
  have hparts := Text.after?_eq_some_iff.mp h
  rw [toList_behind] at hparts
  suffices hfound : exists more, front.toList = "Vrf".toList ++ more by
    rcases hfound with ⟨more, hmore⟩
    exists String.ofList more
    constructor
    · simp [← String.toList_inj, hmore]
    · rw [String.toList_ofList]
      intro hcolon
      apply hfront
      rw [hmore]
      exact List.mem_append_right _ hcolon
  rcases List.append_eq_append_iff.mp hparts with ⟨more, hvrf, hdest⟩ | ⟨more, hmore, _⟩
  · cases more with
    | nil =>
        exists []
        rw [hvrf]
        simp
    | cons c more =>
        -- the colon would stand in `Vrf`
        rw [List.cons_append, List.cons.injEq] at hdest
        have hcolon : ':' ∈ "Vrf".toList := by
          rw [hvrf, hdest.1]
          exact List.mem_append_right _ List.mem_cons_self
        exact absurd hcolon (by decide)
  · exact ⟨more, hmore⟩

theorem routeChars?_qualified (h : ':' ∉ name.toList) :
    routeChars? ("Vrf" ++ name ++ ":" ++ text) = some text.toList := by
  have hname : ':' ∉ ("Vrf" ++ name).toList := by
    rw [String.toList_append, List.mem_append, not_or]
    exact ⟨by decide, h⟩
  have hstart : Text.after? "Vrf".toList ("Vrf" ++ name ++ ":" ++ text).toList =
      some (name ++ ":" ++ text).toList := by
    rw [Text.after?_eq_some_iff, String.append_assoc, String.append_assoc, String.toList_append,
      String.append_assoc]
  unfold routeChars?
  rw [hstart, Option.isSome_some, if_pos rfl]
  exact afterColon?_behind hname

theorem routeChars?_bind_iff :
    (routeChars? key).bind RouteKey.ofChars? = some k ↔ NamesRoute key k := by
  constructor
  · intro h
    unfold routeChars? at h
    cases hstart : Text.after? "Vrf".toList key.toList with
    | none =>
        rw [hstart] at h
        exact NamesRoute.plain h
    | some rest =>
        rw [hstart, Option.isSome_some, if_pos rfl] at h
        rcases Option.bind_eq_some_iff.mp h with ⟨text, htext, hk⟩
        rcases Option.map_eq_some_iff.mp htext with ⟨⟨before, after⟩, hcut, rfl⟩
        rcases exists_behind_of_cut hcut with ⟨front, dest, rfl, hfront, rfl, rfl⟩
        rcases exists_vrf_of_after? hfront hstart with ⟨name, rfl, hname⟩
        exact NamesRoute.qualified hname hk
  · intro h
    cases h with
    | plain hk =>
        have hstart : Text.after? "Vrf".toList key.toList = none := by
          cases hstart : Text.after? "Vrf".toList key.toList with
          | none =>
              rfl
          | some rest =>
              have hnone := ofChars?_of_vrf rest
              rw [← Text.after?_eq_some_iff.mp hstart] at hnone
              exact absurd (hnone.symm.trans hk) (by simp)
        unfold routeChars?
        rw [hstart]
        exact hk
    | qualified hname hk =>
        rw [routeChars?_qualified hname]
        exact hk

theorem parseRoute_value : (parseRoute key).value =
    ((routeChars? key).bind RouteKey.ofChars?).filter fun k => !k.isLinkLocal := by
  unfold parseRoute
  cases routeChars? key with
  | none =>
      rfl
  | some text =>
      rw [Option.bind_some]
      cases hk : RouteKey.ofChars? text with
      | none =>
          simp only [hk]
          rfl
      | some k =>
          cases hlocal : k.isLinkLocal with
          | false => simp [hk, hlocal, pure, Option.filter]
          | true => simp [hk, hlocal, pure, Option.filter]

theorem parseRoute_eq_some_iff :
    (parseRoute key).value = some k ↔ NamesRoute key k ∧ k.isLinkLocal = false := by
  rw [parseRoute_value, Option.filter_eq_some_iff, routeChars?_bind_iff, Bool.not_eq_true']

/-!
# Addresses with masks
-/

theorem toList_masked (text mask : String) :
    (text ++ "/" ++ mask).toList = text.toList ++ '/' :: mask.toList :=
  toList_separated text mask rfl

theorem slash_not_mem_of_parse? (h : Address.parse? text = some a) : '/' ∉ text.toList :=
  fun hc => (Address.IsAddressChar.of_ofChars? h '/' hc).ne_slash rfl

theorem hostBeforeMask?_iff : hostBeforeMask? text.toList = some k ↔ NamesHost text k := by
  unfold hostBeforeMask?
  rw [Option.map_eq_some_iff]
  constructor
  · intro h
    rcases h with ⟨a, haddress, rfl⟩
    rcases Text.head_cases '/' text.toList with hall | ⟨mask, htext⟩
    · rw [hall] at haddress
      exact NamesHost.bare haddress
    · have hsplit : text = String.ofList (Text.head '/' text.toList) ++ "/" ++
          String.ofList mask := by
        rw [← String.toList_inj, toList_masked, String.toList_ofList, String.toList_ofList]
        exact htext
      rw [hsplit]
      apply NamesHost.masked
      unfold Address.parse?
      rw [String.toList_ofList]
      exact haddress
  · intro h
    cases h with
    | bare haddress =>
        rename_i a
        exists a
        rw [Text.head_of_not_mem (slash_not_mem_of_parse? haddress)]
        exact ⟨haddress, rfl⟩
    | masked mask haddress =>
        rename_i text a
        exists a
        rw [toList_masked, Text.head_append (slash_not_mem_of_parse? haddress)]
        exact ⟨haddress, rfl⟩

/-!
# Keys of the other tables
-/

theorem parseInterface_value : (parseInterface key).value =
    ((Text.cut ':' key.toList).bind fun parts =>
      if parts.1 ∈ unprogrammedInterfaces then none else hostBeforeMask? parts.2).filter
        fun k => !k.isLinkLocal := by
  unfold parseInterface
  cases Text.cut ':' key.toList with
  | none =>
      rfl
  | some parts =>
      rcases parts with ⟨interface, address⟩
      rw [Option.bind_some]
      by_cases hinterface : interface ∈ unprogrammedInterfaces
      · simp only [if_pos hinterface]
        rfl
      · simp only [if_neg hinterface]
        cases hk : hostBeforeMask? address with
        | none =>
            rfl
        | some k =>
            cases hlocal : k.isLinkLocal with
            | false => simp [hlocal, pure, Option.filter]
            | true => simp [hlocal, pure, Option.filter]

theorem not_mem_unprogrammed_iff :
    name.toList ∉ unprogrammedInterfaces ↔ name ≠ "eth0" ∧ name ≠ "docker0" := by
  unfold unprogrammedInterfaces
  rw [List.mem_cons, List.mem_singleton, String.toList_inj, String.toList_inj, not_or]

theorem parseInterface_eq_some_iff :
    (parseInterface key).value = some k ↔ NamesInterface key k ∧ k.isLinkLocal = false := by
  rw [parseInterface_value, Option.filter_eq_some_iff, Bool.not_eq_true']
  apply and_congr_left
  intro _
  rw [Option.bind_eq_some_iff]
  constructor
  · intro h
    rcases h with ⟨⟨before, after⟩, hcut, hk⟩
    rcases exists_behind_of_cut hcut with ⟨interface, text, rfl, hinterface, rfl, rfl⟩
    split at hk
    · cases hk
    · rename_i hkept
      rcases not_mem_unprogrammed_iff.mp hkept with ⟨hmanagement, hbridge⟩
      exact NamesInterface.intro hinterface hmanagement hbridge (hostBeforeMask?_iff.mp hk)
  · intro h
    cases h with
    | intro hinterface hmanagement hbridge hhost =>
        refine ⟨_, cut_behind hinterface, ?_⟩
        rw [if_neg (not_mem_unprogrammed_iff.mpr ⟨hmanagement, hbridge⟩)]
        exact hostBeforeMask?_iff.mpr hhost

theorem vnetRoute?_behind (h : ':' ∉ name.toList) :
    vnetRoute? (name ++ ":" ++ text) = RouteKey.parse? text := by
  unfold vnetRoute?
  rw [afterColon?_behind h]
  rfl

theorem neighbor?_behind (h : ':' ∉ name.toList) :
    neighbor? (name ++ ":" ++ text) = (Address.parse? text).map RouteKey.host := by
  unfold neighbor?
  rw [afterColon?_behind h]
  rfl

theorem exists_behind_of_afterColon? {text : List Char}
    (h : afterColon? key = some text) : exists name dest : String,
      key = name ++ ":" ++ dest ∧ ':' ∉ name.toList ∧ dest.toList = text := by
  rcases Option.map_eq_some_iff.mp h with ⟨⟨before, after⟩, hcut, rfl⟩
  rcases exists_behind_of_cut hcut with ⟨name, dest, hkey, hname, _, hdest⟩
  exact ⟨name, dest, hkey, hname, hdest⟩

theorem vnetRoute?_eq_some_iff : vnetRoute? key = some k ↔ exists name text : String,
    key = name ++ ":" ++ text ∧ ':' ∉ name.toList ∧ RouteKey.parse? text = some k := by
  constructor
  · intro h
    rcases Option.bind_eq_some_iff.mp h with ⟨text, htext, hk⟩
    rcases exists_behind_of_afterColon? htext with ⟨name, dest, hkey, hname, rfl⟩
    exact ⟨name, dest, hkey, hname, hk⟩
  · intro h
    rcases h with ⟨name, text, rfl, hname, hk⟩
    rw [vnetRoute?_behind hname, hk]

theorem neighbor?_eq_some_iff : neighbor? key = some k ↔ exists interface text : String,
    key = interface ++ ":" ++ text ∧ ':' ∉ interface.toList ∧
      exists a, Address.parse? text = some a ∧ k = .host a := by
  constructor
  · intro h
    rcases Option.bind_eq_some_iff.mp h with ⟨text, htext, hk⟩
    rcases exists_behind_of_afterColon? htext with ⟨name, dest, hkey, hname, rfl⟩
    rcases Option.map_eq_some_iff.mp hk with ⟨a, ha, rfl⟩
    exact ⟨name, dest, hkey, hname, a, ha, rfl⟩
  · intro h
    rcases h with ⟨interface, text, rfl, hname, a, ha, rfl⟩
    rw [neighbor?_behind hname, ha]
    rfl

/-- Whatever follows the slash, trimming leaves the address in front of it alone. -/
theorem cableAddress?_masked (h : Address.parse? text = some a) (mask : String) :
    cableAddress? (text ++ "/" ++ mask) = some (.host a) := by
  have hblank : ∀ c ∈ text.toList, Text.isBlank c = false :=
    fun c hc => (Address.IsAddressChar.of_ofChars? h c hc).not_blank
  unfold cableAddress? hostBeforeMask?
  rw [toList_masked, Text.trim_append_cons hblank rfl,
    Text.head_append (slash_not_mem_of_parse? h)]
  exact congrArg (Option.map RouteKey.host) h

end TableKey
end RouteAudit
