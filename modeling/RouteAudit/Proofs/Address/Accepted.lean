import RouteAudit.Proofs.Address.Written

/-!
# Texts that are addresses

Whatever text is accepted as an address consists of hexadecimal digits, colons and dots.  So
an address never swallows a blank or the slash in front of a length, and it never starts like
the name of a routing instance.
-/

namespace RouteAudit
namespace Address

/-- The characters that stand in texts of addresses. -/
def IsAddressChar (c : Char) : Prop :=
  c = ':' ∨ c = '.' ∨ ('0' ≤ c ∧ c ≤ '9') ∨ ('a' ≤ c ∧ c ≤ 'z') ∨ ('A' ≤ c ∧ c ≤ 'Z')

/-- The characters that an address is written with, of which the letters go up to `f`. -/
def IsHexChar (c : Char) : Prop :=
  c = ':' ∨ c = '.' ∨ (Numeral.digit? 16 c).isSome

instance (c : Char) : Decidable (IsHexChar c) :=
  inferInstanceAs (Decidable (_ ∨ _))

theorem IsHexChar.isAddressChar {c : Char} (h : IsHexChar c) : IsAddressChar c := by
  rcases h with rfl | rfl | hdigit
  · exact Or.inl rfl
  · exact Or.inr (Or.inl rfl)
  · exact Or.inr (Or.inr (Numeral.alphanumeric_of_digit? hdigit))

theorem IsAddressChar.not_blank {c : Char} (h : IsAddressChar c) : Text.isBlank c = false := by
  have hrange : 46 ≤ c.toNat ∧ c.toNat ≤ 122 := by
    rcases h with rfl | rfl | ⟨hlow, hhigh⟩ | ⟨hlow, hhigh⟩ | ⟨hlow, hhigh⟩
    · decide
    · decide
    all_goals
      rw [Char.le_def, UInt32.le_iff_toNat_le] at hlow hhigh
      have h0 : '0'.val.toNat = 48 := rfl
      have h9 : '9'.val.toNat = 57 := rfl
      have ha : 'a'.val.toNat = 97 := rfl
      have hz : 'z'.val.toNat = 122 := rfl
      have hA : 'A'.val.toNat = 65 := rfl
      have hZ : 'Z'.val.toNat = 90 := rfl
      unfold Char.toNat
      omega
  unfold Text.isBlank
  simp
  omega

theorem IsAddressChar.ne_slash {c : Char} (h : IsAddressChar c) : c ≠ '/' := by
  intro heq
  rcases heq with rfl
  revert h
  unfold IsAddressChar
  decide

/-!
# Pieces
-/

theorem IsHexChar.of_octet? {text : List Char} (h : (octet? text).isSome) :
    ∀ c ∈ text, IsHexChar c := by
  unfold octet? at h
  split at h
  · rename_i hform
    cases hread : Numeral.read? 10 255 text with
    | none => simp [hread] at h
    | some n =>
        intro c hc
        have hdigit := Numeral.isSome_digit?_of_read? hform.2.2 hread c hc
        exact Or.inr (Or.inr (Numeral.isSome_digit?_of_le (by decide) hdigit))
  · cases h

theorem IsHexChar.of_group? {text : List Char} (h : (group? text).isSome) :
    ∀ c ∈ text, IsHexChar c := by
  unfold group? at h
  split at h
  · rename_i hform
    cases hread : Numeral.read? 16 65535 text with
    | none => simp [hread] at h
    | some n =>
        intro c hc
        exact Or.inr (Or.inr (Numeral.isSome_digit?_of_read? hform.2 hread c hc))
  · cases h

theorem IsHexChar.of_quad? {text : List Char} (h : (quad? text).isSome) :
    ∀ c ∈ text, IsHexChar c := by
  unfold quad? at h
  cases hoctets : (Text.pieces '.' text).mapM octet? with
  | none => simp [hoctets] at h
  | some octets =>
      intro c hc
      rw [← Text.join_pieces '.' text] at hc
      rcases Text.mem_join hc with hc | ⟨p, hp, hc⟩
      · exact Or.inr (Or.inl hc)
      · exact .of_octet? (forall_of_mapM_eq_some hoctets p hp) c hc

theorem IsHexChar.of_groups? {ps : List (List Char)} (h : (groups? ps).isSome) :
    ∀ p ∈ ps, ∀ c ∈ p, IsHexChar c := by
  induction ps with
  | nil => simp
  | cons p ps ih =>
      cases ps with
      | nil =>
          intro q hq
          rw [List.mem_singleton] at hq
          subst hq
          rw [groups?] at h
          cases hquad : quad? q with
          | none =>
              rw [hquad] at h
              exact .of_group? (by simpa using h)
          | some octets => exact .of_quad? (by simp [hquad])
      | cons q more =>
          rw [groups?] at h
          · cases hg : group? p with
            | none => simp [hg] at h
            | some g =>
                cases hgs : groups? (q :: more) with
                | none => simp [hg, hgs] at h
                | some gs =>
                    intro r hr
                    rcases List.mem_cons.mp hr with rfl | hr
                    · exact .of_group? (by simp [hg])
                    · exact ih (by simp [hgs]) r hr
          · simp

theorem IsHexChar.of_pieces {text : List Char}
    (h : (groups? (Text.pieces ':' text)).isSome) : ∀ c ∈ text, IsHexChar c := by
  intro c hc
  rw [← Text.join_pieces ':' text] at hc
  rcases Text.mem_join hc with hc | ⟨p, hp, hc⟩
  · exact Or.inl hc
  · exact .of_groups? h p hp c hc

theorem IsHexChar.of_side? {text : List Char} (h : (side? text).isSome) :
    ∀ c ∈ text, IsHexChar c := by
  unfold side? at h
  split at h
  · rename_i hnil
    simp [hnil]
  · exact .of_pieces h

/-!
# Whole texts
-/

theorem eq_of_gap? {text before after : List Char} (h : gap? text = some (before, after)) :
    text = before ++ ':' :: ':' :: after := by
  fun_induction gap? text generalizing before with
  | case1 => cases h
  | case2 rest =>
      cases h
      rfl
  | case3 c rest _ ih =>
      simp only [Option.map_eq_some_iff, Prod.mk.injEq, Prod.exists] at h
      rcases h with ⟨b, a, hgap, rfl, rfl⟩
      rw [ih hgap]
      rfl

theorem IsHexChar.of_hextets? {text : List Char} (h : (hextets? text).isSome) :
    ∀ c ∈ text, IsHexChar c := by
  unfold hextets? at h
  split at h
  · cases hgs : groups? (Text.pieces ':' text) with
    | none => simp [hgs] at h
    | some gs => exact .of_pieces (by simp [hgs])
  · rename_i before after hgap
    have hfront : (side? before).isSome := by
      split at h
      · cases h
      · cases hside : side? before with
        | none => simp [hside] at h
        | some front => rfl
    have hback : (side? after).isSome := by
      cases hside : side? after with
      | none =>
          exfalso
          split at h
          · cases h
          · cases hother : side? before <;> simp [hside, hother] at h
      | some back => rfl
    intro c hc
    rw [eq_of_gap? hgap] at hc
    cases List.mem_append.mp hc with
    | inl hc =>
        exact .of_side? hfront c hc
    | inr hc =>
        cases List.mem_cons.mp hc with
        | inl hc =>
            exact Or.inl hc
        | inr hc =>
            cases List.mem_cons.mp hc with
            | inl hc =>
                exact Or.inl hc
            | inr hc =>
                exact .of_side? hback c hc

theorem IsHexChar.of_ofChars? {text : List Char} {a : Address} (h : ofChars? text = some a) :
    ∀ c ∈ text, IsHexChar c := by
  unfold ofChars? at h
  cases hquad : quad? text with
  | some octets => exact .of_quad? (by simp [hquad])
  | none =>
      rw [hquad] at h
      exact .of_hextets? (by simp [h])

theorem IsAddressChar.of_ofChars? {text : List Char} {a : Address} (h : ofChars? text = some a) :
    ∀ c ∈ text, IsAddressChar c :=
  fun c hc => (IsHexChar.of_ofChars? h c hc).isAddressChar

/-- There is no address without a character. -/
theorem ne_nil_of_ofChars? {text : List Char} {a : Address} (h : ofChars? text = some a) :
    text ≠ [] := by
  rintro rfl
  have hnone : ofChars? [] = none := by decide
  rw [hnone] at h
  cases h

end Address
end RouteAudit
