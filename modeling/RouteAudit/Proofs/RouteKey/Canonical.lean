import RouteAudit.RouteKey
import RouteAudit.Proofs.Address.Accepted

/-!
# Canonical texts of route keys

A key is found again from its text, so the text stands for the destination: two keys have
one text if and only if they have one address and one length.  A destination has many
spellings beside its text, and all of them are read as the same key.
-/

namespace RouteAudit
namespace RouteKey

/-- The key of a network of 256 addresses. -/
def network (a b c : UInt8) : RouteKey := ⟨.v4 #v[a, b, c, 0], 24, Nat.le_add_right 24 8⟩

/-!
# Reading the written form
-/

theorem not_blank_of_mem_written {c : Char} (hc : c ∈ Numeral.written) :
    Text.isBlank c = false := by
  have hall : (Numeral.written.all fun d => !Text.isBlank d) = true := by decide
  simpa using List.all_eq_true.mp hall c hc

theorem not_blank_of_mem_chars {k : RouteKey} {c : Char} (hc : c ∈ k.chars) :
    Text.isBlank c = false := by
  cases List.mem_append.mp hc with
  | inl hc =>
      rcases Address.mem_chars hc with rfl | rfl | hc
      · rfl
      · rfl
      · exact not_blank_of_mem_written hc
  | inr hc =>
      rcases List.mem_cons.mp hc with rfl | hc
      · rfl
      · exact not_blank_of_mem_written (Numeral.mem_written_of_mem_digits (by decide) (by decide) hc)

theorem slash_not_mem_address (a : Address) : '/' ∉ a.chars := by
  intro h
  rcases Address.mem_chars h with h | h | h
  · simp at h
  · simp at h
  · exact absurd h (by decide)

theorem width_le (a : Address) : a.width ≤ 128 := by
  cases a with
  | v4 octets =>
      show 32 ≤ 128
      decide
  | v6 groups =>
      show 128 ≤ 128
      decide

theorem ofParts?_of_le {a : Address} {n : Nat} (h : n ≤ a.width) :
    ofParts? a n = some ⟨a, n, h⟩ := by
  unfold ofParts?
  rw [dif_pos h]

theorem ofChars?_chars (k : RouteKey) : ofChars? k.chars = some k := by
  have hlength : k.length ≤ 255 := Nat.le_trans k.fits (Nat.le_trans (width_le _) (by decide))
  have hcut : Text.cut '/' k.chars = some (k.address.chars, Numeral.digits 10 k.length) :=
    Text.cut_append _ (slash_not_mem_address k.address)
  unfold ofChars?
  dsimp only
  rw [Text.trim_of_no_blank fun c hc => not_blank_of_mem_chars hc, hcut]
  simp [Address.ofChars?_chars, Numeral.read?_digits, hlength, ofParts?_of_le k.fits]

theorem parse?_text (k : RouteKey) : parse? k.text = some k := by
  unfold parse? text
  rw [String.toList_ofList]
  exact ofChars?_chars k

/-- The text of a key determines the key. -/
theorem text_injective {k l : RouteKey} (h : k.text = l.text) : k = l := by
  have hk := parse?_text k
  rw [h, parse?_text l] at hk
  exact (Option.some.inj hk).symm

theorem text_eq_iff {k l : RouteKey} : k.text = l.text ↔ k = l := by
  constructor
  · exact text_injective
  · intro h
    rw [h]

theorem eq_iff {k l : RouteKey} : k = l ↔ k.address = l.address ∧ k.length = l.length := by
  cases k
  cases l
  simp

theorem compare_eq_iff {k l : RouteKey} : compare k l = .eq ↔ k = l := by
  change compare k.text l.text = .eq ↔ k = l
  rw [Std.LawfulEqOrd.compare_eq_iff_eq]
  exact text_eq_iff

/-!
# Spellings

Blanks may stand around a key.  Its address is any text of an address, and its length has
an optional plus sign and any number of zeros in front; the length of a host may be left
out together with its slash.
-/

inductive Spelling (a : Address) (n : Nat) : List Char → Prop where
  | host {before address after : List Char} :
      (∀ c ∈ before, Text.isBlank c = true) → (∀ c ∈ after, Text.isBlank c = true) →
      Address.ofChars? address = some a → n = a.width →
      Spelling a n (before ++ address ++ after)
  | measured {before address after : List Char} (plus : Bool) (zeros : Nat) :
      (∀ c ∈ before, Text.isBlank c = true) → (∀ c ∈ after, Text.isBlank c = true) →
      Address.ofChars? address = some a → n ≤ a.width →
      Spelling a n (before ++ (address ++ '/' ::
        ((if plus then ['+'] else []) ++ (List.replicate zeros '0' ++ Numeral.digits 10 n))) ++
        after)

theorem not_blank_of_mem_number {plus : Bool} {zeros n : Nat} {c : Char}
    (hc : c ∈ (if plus then ['+'] else []) ++
      (List.replicate zeros '0' ++ Numeral.digits 10 n)) :
    Text.isBlank c = false := by
  cases List.mem_append.mp hc with
  | inl hc =>
      cases plus with
      | false => simp at hc
      | true =>
          rw [if_pos rfl, List.mem_singleton] at hc
          rw [hc]
          rfl
  | inr hc =>
      cases List.mem_append.mp hc with
      | inl hc =>
          rw [List.eq_of_mem_replicate hc]
          rfl
      | inr hc =>
          exact not_blank_of_mem_written (Numeral.mem_written_of_mem_digits (by decide) (by decide) hc)

theorem ofChars?_of_spelling {a : Address} {n : Nat} {text : List Char}
    (h : Spelling a n text) : exists hn : n ≤ a.width, ofChars? text = some ⟨a, n, hn⟩ := by
  cases h with
  | host hbefore hafter haddress hn =>
      rename_i before address after
      have hchars := Address.IsAddressChar.of_ofChars? haddress
      have hslash : Text.cut '/' address = none := by
        cases hcut : Text.cut '/' address with
        | none => rfl
        | some parts =>
            have hmem : '/' ∈ address := by
              rw [(Text.cut_eq_some hcut).1]
              simp
            exact absurd rfl (hchars '/' hmem).ne_slash
      refine ⟨Nat.le_of_eq hn, ?_⟩
      unfold ofChars?
      dsimp only
      rw [Text.trim_blanks hbefore (fun c hc => (hchars c hc).not_blank) hafter, hslash]
      simp [haddress, host, hn]
  | measured plus zeros hbefore hafter haddress hn =>
      rename_i before address after
      have hchars := Address.IsAddressChar.of_ofChars? haddress
      have hslash : '/' ∉ address := fun h => (hchars '/' h).ne_slash rfl
      have hlimit : n ≤ 255 := Nat.le_trans hn (Nat.le_trans (width_le a) (by decide))
      have hread : Numeral.read? 10 255 ((if plus then ['+'] else []) ++
          (List.replicate zeros '0' ++ Numeral.digits 10 n)) = some n :=
        Numeral.read?_spelled (by decide) (by decide) hlimit zeros plus
      refine ⟨hn, ?_⟩
      unfold ofChars?
      dsimp only
      rw [Text.trim_blanks hbefore _ hafter, Text.cut_append _ hslash]
      · simp only [haddress, Option.bind_eq_bind, Option.bind_some, hread, ofParts?_of_le hn]
      · intro c hc
        cases List.mem_append.mp hc with
        | inl hc =>
            exact (hchars c hc).not_blank
        | inr hc =>
            rcases List.mem_cons.mp hc with rfl | hc
            · rfl
            · exact not_blank_of_mem_number hc

theorem spelling_of_ofChars? {k : RouteKey} {text : List Char} (h : ofChars? text = some k) :
    Spelling k.address k.length text := by
  rcases Text.eq_blanks_trim text with ⟨before, after, hbefore, hafter, htext⟩
  unfold ofChars? at h
  dsimp only at h
  rw [htext]
  cases hcut : Text.cut '/' (Text.trim text) with
  | none =>
      rw [hcut] at h
      rcases Option.map_eq_some_iff.mp h with ⟨a, haddress, rfl⟩
      exact Spelling.host hbefore hafter haddress rfl
  | some parts =>
      rcases parts with ⟨address, number⟩
      rw [hcut] at h
      rcases Option.bind_eq_some_iff.mp h with ⟨a, haddress, h⟩
      rcases Option.bind_eq_some_iff.mp h with ⟨n, hread, h⟩
      unfold ofParts? at h
      split at h
      · rename_i hn
        obtain rfl := Option.some.inj h
        rcases Numeral.spelled_of_read? hread with ⟨plus, zeros, rfl⟩
        rw [(Text.cut_eq_some hcut).1]
        exact Spelling.measured plus zeros hbefore hafter haddress hn
      · cases h

/-- A text is read as a key exactly if it spells the key's destination. -/
theorem parse?_eq_some_iff {u : String} {k : RouteKey} :
    parse? u = some k ↔ Spelling k.address k.length u.toList := by
  constructor
  · exact spelling_of_ofChars?
  · intro hu
    rcases ofChars?_of_spelling hu with ⟨_, hparse⟩
    exact hparse

/-!
# The text of a key is canonical
-/

/-- A text that is read spells the destination of its key, and the key is read again from
its own text.  Two texts that are read give keys that compare equal exactly if these have
one text, which is exactly if both spell one destination, and then the keys are classified
alike.  Every spelling of the destination is read as a key with that text. -/
theorem text_canonical {s t : String} {k l : RouteKey} (hk : parse? s = some k)
    (hl : parse? t = some l) :
    Spelling k.address k.length s.toList ∧
    (exists k', parse? k.text = some k' ∧
      k'.text = k.text ∧ k'.address = k.address ∧ k'.length = k.length) ∧
    (compare k l = .eq ↔ k.text = l.text) ∧
    (k.text = l.text ↔ k.address = l.address ∧ k.length = l.length) ∧
    (k.text = l.text ↔ Spelling k.address k.length t.toList) ∧
    (k.text = l.text →
      k.isHost = l.isHost ∧ k.isDefaultRoute = l.isDefaultRoute ∧
        k.isLinkLocal = l.isLinkLocal) ∧
    (∀ u : String, Spelling k.address k.length u.toList ↔
      exists k', parse? u = some k' ∧ k'.text = k.text) := by
  have hspelled : ∀ u : String, Spelling k.address k.length u.toList ↔
      exists k', parse? u = some k' ∧ k'.text = k.text := by
    intro u
    rw [← parse?_eq_some_iff]
    constructor
    · intro hu
      exact ⟨k, hu, rfl⟩
    · intro hparts
      rcases hparts with ⟨k', hu, htext⟩
      rw [hu, text_injective htext]
  refine ⟨parse?_eq_some_iff.mp hk, ⟨k, parse?_text k, rfl, rfl, rfl⟩, ?_, ?_, ?_, ?_, hspelled⟩
  · rw [compare_eq_iff, text_eq_iff]
  · rw [text_eq_iff, eq_iff]
  · rw [hspelled t]
    constructor
    · intro htext
      exact ⟨l, hl, htext.symm⟩
    · intro hparts
      rcases hparts with ⟨k', hk', htext⟩
      rw [hl] at hk'
      rw [Option.some.inj hk', htext]
  · intro htext
    rw [text_injective htext]
    exact ⟨rfl, rfl, rfl⟩

theorem text_canonical_of_two_spellings :
    exists k l : RouteKey,
      parse? " FC00:0:0:00:0::1.2.3.4 " = some k ∧ parse? "fc00::102:304/+0128" = some l ∧
      (compare k l = .eq ↔ k.text = l.text) ∧ k.text = l.text ∧
      Spelling k.address k.length "fc00::102:304/+0128".toList := by
  have hk : parse? " FC00:0:0:00:0::1.2.3.4 " =
      some (host (.v6 #v[0xfc00, 0, 0, 0, 0, 0, 0x102, 0x304])) := by decide +kernel
  have hl : parse? "fc00::102:304/+0128" =
      some (host (.v6 #v[0xfc00, 0, 0, 0, 0, 0, 0x102, 0x304])) := by decide +kernel
  rcases text_canonical hk hl with ⟨_, _, hcompare, hsame, hspells, _, _⟩
  have htext := hsame.mpr ⟨rfl, rfl⟩
  exact ⟨_, _, hk, hl, hcompare, htext, hspells.mp htext⟩

end RouteKey
end RouteAudit
