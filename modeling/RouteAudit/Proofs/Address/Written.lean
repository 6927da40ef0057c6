import RouteAudit.Address
import RouteAudit.Proofs.Text.Numerals
import RouteAudit.Proofs.Text.Pieces
import RouteAudit.Proofs.Text.Readings

/-!
# Written addresses are read back

Every address is read from its canonical text.  For version 6 this means that the groups
left out at a `::` are found again from the groups around it, and that the dotted quad of
a mapped address stands for its last two groups.
-/

namespace RouteAudit
namespace Address

/-!
# Characters
-/

theorem mem_quadChars {octets : Vector UInt8 4} {c : Char} (hc : c ∈ quadChars octets) :
    c = '.' ∨ c ∈ Numeral.written := by
  rcases Text.mem_join hc with hc | ⟨p, hp, hc⟩
  · exact Or.inl hc
  · rcases List.mem_map.mp hp with ⟨o, _, rfl⟩
    exact Or.inr (Numeral.mem_written_of_mem_digits (by decide) (by decide) hc)

theorem mem_groupChars {gs : List UInt16} {c : Char} (hc : c ∈ groupChars gs) :
    c = ':' ∨ c ∈ Numeral.written := by
  rcases Text.mem_join hc with hc | ⟨p, hp, hc⟩
  · exact Or.inl hc
  · rcases List.mem_map.mp hp with ⟨g, _, rfl⟩
    exact Or.inr (Numeral.mem_written_of_mem_digits (by decide) (by decide) hc)

theorem dot_not_mem_groupChars (gs : List UInt16) : '.' ∉ groupChars gs := by
  intro h
  cases mem_groupChars h with
  | inl h =>
      simp at h
  | inr h =>
      exact absurd h (by decide)

theorem mem_hextetChars {groups : Vector UInt16 8} {c : Char} (hc : c ∈ hextetChars groups) :
    c = ':' ∨ c = '.' ∨ c ∈ Numeral.written := by
  have hgroups : ∀ gs : List UInt16, c ∈ groupChars gs → c = ':' ∨ c = '.' ∨ c ∈ Numeral.written :=
    fun gs h => (mem_groupChars h).imp id Or.inr
  have hmark : ("::ffff:".toList.all fun d => d = ':' ∨ d = '.' ∨ d ∈ Numeral.written) = true := by
    decide
  unfold hextetChars at hc
  split at hc
  · cases List.mem_append.mp hc with
    | inl hc =>
        exact of_decide_eq_true (List.all_eq_true.mp hmark c hc)
    | inr hc =>
        exact Or.inr (mem_quadChars hc)
  · dsimp only at hc
    split at hc
    · cases List.mem_append.mp hc with
      | inl hc =>
          exact hgroups _ hc
      | inr hc =>
          cases List.mem_cons.mp hc with
          | inl hc =>
              exact Or.inl hc
          | inr hc =>
              cases List.mem_cons.mp hc with
              | inl hc =>
                  exact Or.inl hc
              | inr hc =>
                  exact hgroups _ hc
    · exact hgroups _ hc

theorem mem_chars {a : Address} {c : Char} (hc : c ∈ a.chars) :
    c = ':' ∨ c = '.' ∨ c ∈ Numeral.written := by
  cases a with
  | v4 octets => exact Or.inr (mem_quadChars hc)
  | v6 groups => exact mem_hextetChars hc

/-!
# Dotted quads
-/

theorem octet?_digits (o : UInt8) : octet? (Numeral.digits 10 o.toNat) = some o := by
  have hlt : o.toNat < 256 := o.toNat_lt
  have hlength : (Numeral.digits 10 o.toNat).length ≤ 3 :=
    (Nat.length_toDigits_le_iff (by decide) (by decide)).mpr (by omega)
  have hzero : (Numeral.digits 10 o.toNat).head? ≠ some '0' ∨
      (Numeral.digits 10 o.toNat).length = 1 := by
    by_cases ho : 0 < o.toNat
    · exact Or.inl (Numeral.head?_digits_ne_zero (by decide) ho)
    · right
      have : o.toNat = 0 := by omega
      rw [this]
      rfl
  have hplus : (Numeral.digits 10 o.toNat).head? ≠ some '+' := by
    intro h
    exact Numeral.not_mem_digits (by decide) (by decide) (by decide) (List.mem_of_head? h)
  unfold octet?
  rw [if_pos ⟨hlength, hzero, hplus⟩, Numeral.read?_digits (by decide) (by decide) (by omega)]
  simp

theorem quad?_quadChars (octets : Vector UInt8 4) : quad? (quadChars octets) = some octets := by
  have hpieces : Text.pieces '.' (quadChars octets) =
      octets.toList.map fun o => Numeral.digits 10 o.toNat := by
    apply Text.pieces_join
    · intro h
      have := congrArg List.length h
      simp at this
    · intro p hp
      rcases List.mem_map.mp hp with ⟨o, _, rfl⟩
      exact Numeral.not_mem_digits (by decide) (by decide) (by decide)
  unfold quad?
  rw [hpieces, mapM_map_of_inverse octet?_digits]
  have hback : octets.toList.toArray = octets.toArray := Array.toArray_toList
  simp [hback]

/-- A text without a dot is no dotted quad. -/
theorem quad?_of_no_dot {text : List Char} (h : '.' ∉ text) : quad? text = none := by
  unfold quad?
  rw [Text.pieces_of_not_mem h]
  cases hoctet : octet? text with
  | none => simp [hoctet]
  | some o => simp [hoctet]

/-- A text whose part before the first dot is too long is no dotted quad. -/
theorem quad?_of_long_start {start rest : List Char} (hdot : '.' ∉ start)
    (hlong : 3 < start.length) : quad? (start ++ '.' :: rest) = none := by
  have hoctet : octet? start = none := by
    unfold octet?
    rw [if_neg]
    intro h
    omega
  unfold quad?
  rw [Text.pieces_append rest hdot]
  simp [hoctet]

/-!
# Groups
-/

theorem group?_digits (g : UInt16) : group? (Numeral.digits 16 g.toNat) = some g := by
  have hlt : g.toNat < 65536 := g.toNat_lt
  have hlength : (Numeral.digits 16 g.toNat).length ≤ 4 :=
    (Nat.length_toDigits_le_iff (by decide) (by decide)).mpr (by omega)
  have hplus : (Numeral.digits 16 g.toNat).head? ≠ some '+' := by
    intro h
    exact Numeral.not_mem_digits (by decide) (by decide) (by decide) (List.mem_of_head? h)
  unfold group?
  rw [if_pos ⟨hlength, hplus⟩, Numeral.read?_digits (by decide) (by decide) (by omega)]
  simp

theorem groups?_digits (gs : List UInt16) :
    groups? (gs.map fun g => Numeral.digits 16 g.toNat) = some gs := by
  induction gs with
  | nil => rfl
  | cons g gs ih =>
      cases gs with
      | nil =>
          have hquad : quad? (Numeral.digits 16 g.toNat) = none :=
            quad?_of_no_dot (Numeral.not_mem_digits (by decide) (by decide) (by decide))
          simp [groups?, hquad, group?_digits]
      | cons g' gs =>
          rw [List.map_cons] at ih
          rw [List.map_cons, List.map_cons, groups?, ih, group?_digits]
          · rfl
          · simp

theorem pieces_groupChars {gs : List UInt16} (hne : gs ≠ []) :
    Text.pieces ':' (groupChars gs) = gs.map fun g => Numeral.digits 16 g.toNat := by
  apply Text.pieces_join
  · simpa using hne
  · intro p hp
    rcases List.mem_map.mp hp with ⟨g, _, rfl⟩
    exact Numeral.not_mem_digits (by decide) (by decide) (by decide)

theorem groupChars_cons_cons (g g' : UInt16) (gs : List UInt16) :
    groupChars (g :: g' :: gs) = Numeral.digits 16 g.toNat ++ ':' :: groupChars (g' :: gs) :=
  rfl

theorem groupChars_cons_ne (g : UInt16) (gs : List UInt16) :
    exists c rest, groupChars (g :: gs) = c :: rest ∧ c ≠ ':' := by
  have hcolon : ':' ∉ Numeral.digits 16 g.toNat :=
    Numeral.not_mem_digits (by decide) (by decide) (by decide)
  cases hdigits : Numeral.digits 16 g.toNat with
  | nil => exact absurd hdigits Nat.toDigits_ne_nil
  | cons c rest =>
      rw [hdigits] at hcolon
      have hc : c ≠ ':' := by
        intro h
        exact hcolon (h ▸ List.mem_cons_self)
      cases gs with
      | nil => exact ⟨c, rest, hdigits, hc⟩
      | cons g' gs =>
          rw [groupChars_cons_cons, hdigits]
          exact ⟨c, _, rfl, hc⟩

theorem side?_groupChars (gs : List UInt16) : side? (groupChars gs) = some gs := by
  cases gs with
  | nil => rfl
  | cons g gs =>
      rcases groupChars_cons_ne g gs with ⟨c, rest, hchars, _⟩
      unfold side?
      rw [if_neg (by rw [hchars]; simp), pieces_groupChars (by simp), groups?_digits]

/-!
# The gap

A `::` is found behind the groups in front of it, since between two groups stands a single
colon.
-/

theorem gap?_cons_of_ne {c : Char} (rest : List Char) (hc : c ≠ ':') :
    gap? (c :: rest) = (gap? rest).map fun (before, after) => (c :: before, after) := by
  rw [gap?]
  intro rest' h _
  exact hc h

theorem gap?_append {piece : List Char} (rest : List Char) (h : ':' ∉ piece) :
    gap? (piece ++ rest) =
      (gap? rest).map fun (before, after) => (piece ++ before, after) := by
  induction piece with
  | nil => cases hgap : gap? rest <;> simp [hgap]
  | cons c piece ih =>
      simp only [List.mem_cons, not_or] at h
      rw [List.cons_append, gap?_cons_of_ne _ (Ne.symm h.1), ih h.2]
      cases gap? rest <;> rfl

theorem gap?_colon {c : Char} (rest : List Char) (hc : c ≠ ':') :
    gap? (':' :: c :: rest) =
      (gap? (c :: rest)).map fun (before, after) => (':' :: before, after) := by
  rw [gap?]
  intro rest' _ h
  exact hc (List.cons.inj h).1

theorem gap?_groupChars_append (gs : List UInt16) (rest : List Char) :
    gap? (groupChars gs ++ rest) =
      (gap? rest).map fun (before, after) => (groupChars gs ++ before, after) := by
  induction gs with
  | nil => cases h : gap? rest <;> simp [groupChars, Text.join, h]
  | cons g gs ih =>
      have hcolon : ':' ∉ Numeral.digits 16 g.toNat :=
        Numeral.not_mem_digits (by decide) (by decide) (by decide)
      cases gs with
      | nil => exact gap?_append rest hcolon
      | cons g' gs =>
          rcases groupChars_cons_ne g' gs with ⟨c, more, hchars, hc⟩
          have hstep : gap? (':' :: (groupChars (g' :: gs) ++ rest)) =
              (gap? (groupChars (g' :: gs) ++ rest)).map
                fun (before, after) => (':' :: before, after) := by
            rw [hchars, List.cons_append]
            exact gap?_colon _ hc
          rw [groupChars_cons_cons, List.append_assoc, List.cons_append,
            gap?_append _ hcolon, hstep, ih]
          cases gap? rest <;> simp

theorem gap?_groupChars (gs : List UInt16) : gap? (groupChars gs) = none := by
  have h := gap?_groupChars_append gs []
  simpa [gap?] using h

theorem gap?_at_gap (front : List UInt16) (back : List Char) :
    gap? (groupChars front ++ ':' :: ':' :: back) = some (groupChars front, back) := by
  rw [gap?_groupChars_append]
  simp [gap?]

/-!
# The longest run of zero groups
-/

theorem eq_replicate_leadingZeros (gs : List UInt16) :
    gs = List.replicate (leadingZeros gs) 0 ++ gs.drop (leadingZeros gs) := by
  induction gs with
  | nil => rfl
  | cons g gs ih =>
      by_cases hg : g = 0
      · have hsucc : leadingZeros (g :: gs) = leadingZeros gs + 1 := by
          simp [leadingZeros, hg]
        rw [hsucc, List.replicate_succ, List.drop_succ_cons, List.cons_append, ← ih, hg]
      · simp [leadingZeros, hg]

/-- Around its longest run of zeros a list of groups falls into three parts. -/
theorem eq_around_longestRun (gs : List UInt16) :
    gs = gs.take (longestRun gs).1 ++ List.replicate (longestRun gs).2 0 ++
      gs.drop ((longestRun gs).1 + (longestRun gs).2) := by
  induction gs with
  | nil => rfl
  | cons g gs ih =>
      simp only [longestRun]
      split
      · simpa using eq_replicate_leadingZeros (g :: gs)
      · rw [List.take_succ_cons, Nat.add_right_comm, List.drop_succ_cons, List.cons_append,
          List.cons_append, ← ih]

/-!
# Mapped addresses

The octets of the dotted quad are the halves of the last two groups.
-/

theorem joined_halves (g : UInt16) :
    (g >>> 8).toUInt8.toUInt16 <<< 8 ||| g.toUInt8.toUInt16 = g := by
  have hlt : g.toNat < 65536 := g.toNat_lt
  have hlow : g.toNat % 256 < 2 ^ 8 := Nat.mod_lt _ (by decide)
  apply UInt16.toNat_inj.mp
  simp only [UInt16.toNat_or, UInt16.toNat_shiftLeft, UInt16.toNat_shiftRight,
    UInt8.toNat_toUInt16, UInt16.toNat_toUInt8]
  have h8 : (8 : UInt16).toNat % 16 = 8 := by decide
  rw [h8]
  have hhigh : g.toNat >>> 8 % 2 ^ 8 = g.toNat / 256 := by
    rw [Nat.shiftRight_eq_div_pow]
    omega
  have hshift : (g.toNat / 256) <<< 8 % 2 ^ 16 = (g.toNat / 256) <<< 8 := by
    rw [Nat.shiftLeft_eq]
    omega
  rw [hhigh, hshift, ← Nat.shiftLeft_add_eq_or_of_lt hlow, Nat.shiftLeft_eq]
  omega

theorem exists_groups (groups : Vector UInt16 8) :
    exists a b c d e f g h, groups = #v[a, b, c, d, e, f, g, h] := by
  refine ⟨groups[0], groups[1], groups[2], groups[3], groups[4], groups[5], groups[6], groups[7], ?_⟩
  apply Vector.ext
  intro i hi
  interval_cases i <;> rfl

theorem quadGroups_halves (g h : UInt16) :
    quadGroups #v[(g >>> 8).toUInt8, g.toUInt8, (h >>> 8).toUInt8, h.toUInt8] = [g, h] := by
  change [(g >>> 8).toUInt8.toUInt16 <<< 8 ||| g.toUInt8.toUInt16,
    (h >>> 8).toUInt8.toUInt16 <<< 8 ||| h.toUInt8.toUInt16] = [g, h]
  rw [joined_halves, joined_halves]

/-- The groups of a mapped address: five zeros, a mark, and those of the dotted quad. -/
theorem toList_of_mapped {groups : Vector UInt16 8} {octets : Vector UInt8 4}
    (h : mapped? groups = some octets) :
    groups.toList = List.replicate 5 0 ++ 0xffff :: quadGroups octets := by
  rcases exists_groups groups with ⟨a, b, c, d, e, f, g, k, rfl⟩
  unfold mapped? at h
  split at h
  · rename_i hmapped
    rcases hmapped with ⟨hzeros, hmark⟩
    have hquad : quadGroups octets = [g, k] := by
      cases h
      exact quadGroups_halves g k
    have hmark : f = 0xffff := hmark
    have hzeros : [a, b, c, d, e] = [0, 0, 0, 0, 0] := hzeros
    rw [hquad, hmark]
    exact congrArg (· ++ [0xffff, g, k]) hzeros
  · cases h

/-!
# Version 6 addresses
-/

theorem ofGroups?_toList (groups : Vector UInt16 8) :
    ofGroups? groups.toList = some (.v6 groups) := by
  have hback : groups.toList.toArray = groups.toArray := Array.toArray_toList
  unfold ofGroups?
  simp [hback]

theorem hextets?_mapped {groups : Vector UInt16 8} {octets : Vector UInt8 4}
    (h : mapped? groups = some octets) :
    hextets? ("::ffff:".toList ++ quadChars octets) = some (.v6 groups) := by
  have hgap : gap? ("::ffff:".toList ++ quadChars octets) =
      some ([], "ffff:".toList ++ quadChars octets) :=
    rfl
  have hcolon : ':' ∉ quadChars octets := by
    intro hc
    cases mem_quadChars hc with
    | inl hc =>
        simp at hc
    | inr hc =>
        exact absurd hc (by decide)
  have hpieces : Text.pieces ':' ("ffff:".toList ++ quadChars octets) =
      ["ffff".toList, quadChars octets] := by
    have hcut : Text.pieces ':' ("ffff".toList ++ ':' :: quadChars octets) = _ :=
      Text.pieces_append (quadChars octets) (by decide)
    rw [Text.pieces_of_not_mem hcolon] at hcut
    exact hcut
  have hmark : group? ['f', 'f', 'f', 'f'] = some 0xffff := by decide
  have hside : side? ("ffff:".toList ++ quadChars octets) =
      some (0xffff :: quadGroups octets) := by
    unfold side?
    rw [if_neg (by simp), hpieces]
    simp [groups?, quad?_quadChars, hmark]
  have hfront : side? [] = some [] := rfl
  have hlength : (0xffff :: quadGroups octets).length = 3 := rfl
  have hall := toList_of_mapped h
  unfold hextets?
  rw [hgap]
  simp only [List.not_mem_nil, if_false, hfront, hside, Option.bind_eq_bind, Option.bind_some]
  rw [if_pos (by simp [hlength]), hlength]
  rw [← ofGroups?_toList, hall]
  rfl

/-- The groups around a gap of two or more zero groups are read back. -/
theorem hextets?_gap (groups : Vector UInt16 8) (start length : Nat) (hlength : 1 < length)
    (hparts : groups.toList = groups.toList.take start ++ List.replicate length 0 ++
      groups.toList.drop (start + length)) :
    hextets? (groupChars (groups.toList.take start) ++
      ':' :: ':' :: groupChars (groups.toList.drop (start + length))) = some (.v6 groups) := by
  have hcount : groups.toList.length = 8 := by simp
  have htotal := congrArg List.length hparts
  simp only [List.length_append, List.length_take, List.length_replicate, List.length_drop,
    hcount] at htotal
  have hfront : (groups.toList.take start).length = start := by
    rw [List.length_take, hcount]
    omega
  have hback : (groups.toList.drop (start + length)).length = 8 - (start + length) := by
    rw [List.length_drop, hcount]
  have hmiddle : 8 - start - (8 - (start + length)) = length := by omega
  unfold hextets?
  rw [gap?_at_gap]
  simp only [dot_not_mem_groupChars, if_false, side?_groupChars, Option.bind_eq_bind,
    Option.bind_some, hfront, hback, hmiddle]
  rw [if_pos (by omega), ← hparts, ofGroups?_toList]

theorem hextets?_hextetChars (groups : Vector UInt16 8) :
    hextets? (hextetChars groups) = some (.v6 groups) := by
  unfold hextetChars
  split
  · rename_i octets hmapped
    exact hextets?_mapped hmapped
  · dsimp only
    split
    · rename_i hlong
      exact hextets?_gap groups _ _ hlong (eq_around_longestRun groups.toList)
    · have hne : groups.toList ≠ [] := by
        intro h
        have := congrArg List.length h
        simp at this
      unfold hextets?
      rw [gap?_groupChars, pieces_groupChars hne, groups?_digits]
      exact ofGroups?_toList groups

theorem quadChars_eq_append (octets : Vector UInt8 4) :
    exists (o : UInt8) (rest : List Char),
      quadChars octets = Numeral.digits 10 o.toNat ++ '.' :: rest := by
  unfold quadChars
  cases hoctets : octets.toList with
  | nil =>
      have := congrArg List.length hoctets
      simp at this
  | cons o more =>
      cases more with
      | nil =>
          have := congrArg List.length hoctets
          simp at this
      | cons o' more => exact ⟨o, _, rfl⟩

/-- A version 6 text is never taken for a dotted quad. -/
theorem quad?_hextetChars (groups : Vector UInt16 8) : quad? (hextetChars groups) = none := by
  have hdigits : forall o : UInt8, '.' ∉ Numeral.digits 10 o.toNat :=
    fun o => Numeral.not_mem_digits (by decide) (by decide) (by decide)
  unfold hextetChars
  split
  · rename_i octets _
    rcases quadChars_eq_append octets with ⟨o, rest, hquad⟩
    rw [hquad, ← List.append_assoc]
    apply quad?_of_long_start
    · intro h
      cases List.mem_append.mp h with
      | inl h =>
          exact absurd h (by decide)
      | inr h =>
          exact hdigits o h
    · have hmark : "::ffff:".toList.length = 7 := rfl
      rw [List.length_append, hmark]
      omega
  · apply quad?_of_no_dot
    dsimp only
    split
    · simp [dot_not_mem_groupChars]
    · exact dot_not_mem_groupChars _

/-!
# Addresses
-/

theorem ofChars?_chars (a : Address) : ofChars? a.chars = some a := by
  cases a with
  | v4 octets =>
      unfold ofChars? chars
      simp [quad?_quadChars]
  | v6 groups =>
      unfold ofChars? chars
      simp [quad?_hextetChars, hextets?_hextetChars]

end Address
end RouteAudit
