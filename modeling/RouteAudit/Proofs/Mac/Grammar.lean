import RouteAudit.Gathering
import RouteAudit.Mac
import RouteAudit.Proofs.Text.Pieces
import RouteAudit.Proofs.Text.Readings
import RouteAudit.Proofs.Text.Spelling

/-!
# Texts that are hardware addresses

A text is a hardware address if it consists of six parts with a colon between each two of
them, and every part spells a byte.  The canonical text of an address is only one of these,
so an address has many texts, and a neighbor is a standby one if every part of its address
spells zero.
-/

namespace RouteAudit
namespace Mac

variable {text part : List Char} {parts : List (List Char)} {m : Mac}

/-- A text of six parts, with a colon between each two of them, which have a property. -/
def SixOf (text : List Char) (P : List Char → Prop) : Prop :=
  exists parts : List (List Char),
    parts.length = 6 ∧ text = Text.join ':' parts ∧ ∀ part ∈ parts, P part

/-- A text whose parts spell the bytes of an address, in their order. -/
def Spells (text : List Char) (m : Mac) : Prop :=
  exists parts : List (List Char), text = Text.join ':' parts ∧
    List.Forall₂ (fun part byte => Numeral.Spells 16 part byte.toNat) parts m.bytes.toList

/-!
# Bytes
-/

theorem byte?_eq_some_iff {byte : UInt8} :
    byte? part = some byte ↔ Numeral.Spells 16 part byte.toNat := by
  have hbyte : byte.toNat ≤ 255 := Nat.le_of_lt_succ byte.toNat_lt
  have hback : ∀ n ≤ 255, UInt8.ofNat n = byte ↔ n = byte.toNat := by
    intro n hn
    have hsmall : n < 256 := Nat.lt_succ_of_le hn
    constructor
    · rintro rfl
      exact (UInt8.toNat_ofNat_of_lt' hsmall).symm
    · rintro rfl
      exact UInt8.ofNat_toNat
  unfold byte?
  rw [Option.map_eq_some_iff]
  constructor
  · intro h
    rcases h with ⟨n, hread, hn⟩
    rcases (Numeral.read?_eq_some_iff (by decide)).mp hread with ⟨hspells, hlimit⟩
    rw [hback n hlimit] at hn
    exact hn ▸ hspells
  · intro h
    exact ⟨byte.toNat, (Numeral.read?_eq_some_iff (by decide)).mpr ⟨h, hbyte⟩,
      UInt8.ofNat_toNat⟩

theorem isSome_byte?_iff :
    (byte? part).isSome ↔ exists n, n ≤ 255 ∧ Numeral.Spells 16 part n := by
  unfold byte?
  rw [Option.isSome_map, Option.isSome_iff_exists]
  apply exists_congr
  intro n
  rw [Numeral.read?_eq_some_iff (by decide)]
  exact And.comm

theorem colon_not_mem_of_spells {n : Nat} (h : Numeral.Spells 16 part n) : ':' ∉ part := by
  intro hc
  exact absurd (Numeral.mem_of_spells h hc) (by decide)

/-!
# Parts

The parts that are put together with colons are found again, for none of them has one.
-/

theorem ofChars?_eq_some_iff :
    ofChars? text = some m ↔ (Text.pieces ':' text).mapM byte? = some m.bytes.toList := by
  unfold ofChars?
  cases hbytes : (Text.pieces ':' text).mapM byte? with
  | none => simp
  | some bytes =>
      rw [Option.some_inj]
      constructor
      · intro h
        simp only [Option.bind_eq_bind, Option.bind_some] at h
        split at h
        · cases h
          simp
        · cases h
      · rintro rfl
        have hback : m.bytes.toList.toArray = m.bytes.toArray := Array.toArray_toList
        simp [hback]

theorem ofChars?_iff_spells : ofChars? text = some m ↔ Spells text m := by
  rw [ofChars?_eq_some_iff, mapM_eq_some_iff]
  simp only [byte?_eq_some_iff]
  constructor
  · intro h
    exact ⟨Text.pieces ':' text, (Text.join_pieces ':' text).symm, h⟩
  · intro h
    rcases h with ⟨parts, rfl, hparts⟩
    have hlength : parts.length = 6 := by simpa using hparts.length_eq
    have hne : parts ≠ [] := List.ne_nil_of_length_pos (by omega)
    rw [Text.pieces_join hne]
    · exact hparts
    · intro part hpart
      rcases exists_mem_of_forall₂ hparts hpart with ⟨byte, _, hspells⟩
      exact colon_not_mem_of_spells hspells

theorem sixOf_of_spells (h : Spells text m) {P : List Char → Prop}
    (hP : ∀ part, ∀ byte ∈ m.bytes.toList, Numeral.Spells 16 part byte.toNat → P part) :
    SixOf text P := by
  rcases h with ⟨parts, hjoin, hparts⟩
  refine ⟨parts, by simpa using hparts.length_eq, hjoin, ?_⟩
  intro part hpart
  rcases exists_mem_of_forall₂ hparts hpart with ⟨byte, hbyte, hspells⟩
  exact hP part byte hbyte hspells

theorem exists_spells_iff :
    (exists m, Spells text m) ↔
      SixOf text fun part => exists n, n ≤ 255 ∧ Numeral.Spells 16 part n := by
  constructor
  · intro h
    rcases h with ⟨m, hm⟩
    apply sixOf_of_spells hm
    intro part byte _ hspells
    exact ⟨byte.toNat, Nat.le_of_lt_succ byte.toNat_lt, hspells⟩
  · intro h
    rcases h with ⟨parts, hlength, hjoin, hparts⟩
    rcases exists_mapM_eq_some fun part hpart => isSome_byte?_iff.mpr (hparts part hpart)
      with ⟨bytes, hbytes⟩
    have hpairs := mapM_eq_some_iff.mp hbytes
    simp only [byte?_eq_some_iff] at hpairs
    have hsize : bytes.toArray.size = 6 := by
      rw [List.size_toArray, ← hpairs.length_eq, hlength]
    exact ⟨⟨⟨bytes.toArray, hsize⟩⟩, parts, hjoin, hpairs⟩

theorem spells_chars (m : Mac) : Spells m.chars m := by
  refine ⟨_, rfl, ?_⟩
  rw [List.forall₂_map_left_iff, List.forall₂_same]
  intro byte _
  have hread : Numeral.read? 16 255 (Numeral.padded 16 2 byte.toNat) = some byte.toNat :=
    Numeral.read?_spelled (by decide) (by decide) (Nat.le_of_lt_succ byte.toNat_lt) _ false
  exact ((Numeral.read?_eq_some_iff (by decide)).mp hread).1

/-!
# The all-zero address
-/

theorem isZero_iff : m.isZero = true ↔ ∀ byte ∈ m.bytes.toList, byte = 0 := by
  rw [isZero, List.all_eq_true]
  simp only [beq_iff_eq]

theorem exists_zero_iff :
    (exists m, Spells text m ∧ m.isZero = true) ↔
      SixOf text fun part => Numeral.Spells 16 part 0 := by
  constructor
  · intro h
    rcases h with ⟨m, hm, hzero⟩
    apply sixOf_of_spells hm
    intro part byte hbyte hspells
    rw [isZero_iff.mp hzero byte hbyte] at hspells
    exact hspells
  · intro h
    rcases h with ⟨parts, hlength, hjoin, hparts⟩
    have hzeros : ∀ byte ∈ (Vector.replicate 6 (0 : UInt8)).toList, byte.toNat = 0 := by
      intro byte hbyte
      rw [Vector.toList_replicate] at hbyte
      rw [List.eq_of_mem_replicate hbyte]
      rfl
    refine ⟨⟨Vector.replicate 6 0⟩, ⟨parts, hjoin, ?_⟩, by decide⟩
    apply List.forall₂_iff_get.mpr
    refine ⟨by simpa using hlength, ?_⟩
    intro i hi _
    rw [hzeros _ (List.get_mem _ _)]
    exact hparts _ (List.get_mem parts ⟨i, hi⟩)

theorem isStandby_iff (row : Row) :
    Gathering.isStandby row = true ↔
      exists value, row.field? "neigh" = some value ∧
        exists m, parse? value = some m ∧ m.isZero = true := by
  unfold Gathering.isStandby
  rw [Option.any_eq_true]
  constructor
  · intro h
    rcases h with ⟨m, hm, hzero⟩
    rcases Option.bind_eq_some_iff.mp hm with ⟨value, hvalue, hparse⟩
    exact ⟨value, hvalue, m, hparse, hzero⟩
  · intro h
    rcases h with ⟨value, hvalue, m, hparse, hzero⟩
    exact ⟨m, Option.bind_eq_some_iff.mpr ⟨value, hvalue, hparse⟩, hzero⟩

/-- What is read as a hardware address, and as which one: the texts of six parts that spell
bytes, the text that an address is written as among them.  So the texts of the all-zero
address, which make a neighbor a standby one, are those whose parts all spell zero. -/
theorem read_by_parts (s : String) :
    ((parse? s).isSome ↔
      SixOf s.toList fun part => exists n, n ≤ 255 ∧ Numeral.Spells 16 part n) ∧
    (∀ m : Mac, parse? s = some m ↔ Spells s.toList m) ∧
    (∀ m : Mac, parse? m.text = some m) ∧
    ((exists m, parse? s = some m ∧ m.isZero = true) ↔
      SixOf s.toList fun part => Numeral.Spells 16 part 0) ∧
    ∀ row : Row, Gathering.isStandby row = true ↔
      exists value, row.field? "neigh" = some value ∧
        SixOf value.toList fun part => Numeral.Spells 16 part 0 := by
  have hparse : ∀ (text : String) (m : Mac), parse? text = some m ↔ Spells text.toList m :=
    fun _ _ => ofChars?_iff_spells
  have hzero : ∀ text : String, (exists m, parse? text = some m ∧ m.isZero = true) ↔
      SixOf text.toList fun part => Numeral.Spells 16 part 0 := by
    intro text
    rw [← exists_zero_iff]
    exact exists_congr fun m => and_congr_left fun _ => hparse text m
  constructor
  · rw [Option.isSome_iff_exists, ← exists_spells_iff]
    exact exists_congr (hparse s)
  constructor
  · exact hparse s
  constructor
  · intro m
    rw [hparse]
    simpa [text] using spells_chars m
  constructor
  · exact hzero s
  · intro row
    rw [isStandby_iff]
    exact exists_congr fun value => and_congr_right fun _ => hzero value

/-- Signs, single digits and zeros in front are read as well. -/
example : parse? "+0:00:+000:0:0:00000" = some ⟨Vector.replicate 6 0⟩ := by
  decide +kernel

end Mac
end RouteAudit
