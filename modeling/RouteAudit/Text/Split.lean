/-!
# Cutting text

Keys and lists in the databases are short texts with separators.  This module
cuts them: at the first separator, at every separator, after a known beginning,
and free of the blanks around them.  The functions work on lists of characters,
so that what they keep and what they drop can be stated by `++`.
-/

namespace RouteAudit
namespace Text

/-!
# Separators

`cut` splits at the first separator and `pieces` at each of them; the
separators themselves are dropped, and joining the parts again restores the text.
-/

def cut (sep : Char) : List Char → Option (List Char × List Char)
  | [] => none
  | c :: rest =>
      if c = sep then
        some ([], rest)
      else
        (cut sep rest).map fun (before, after) => (c :: before, after)

def pieces (sep : Char) : List Char → List (List Char)
  | [] => [[]]
  | c :: rest =>
      if c = sep then
        [] :: pieces sep rest
      else
        match pieces sep rest with
        | [] => [[c]]
        | piece :: more => (c :: piece) :: more

def join (sep : Char) : List (List Char) → List Char
  | [] => []
  | [piece] => piece
  | piece :: more => piece ++ sep :: join sep more

/-- The part before the first separator, or everything if there is none. -/
def head (sep : Char) (text : List Char) : List Char :=
  text.takeWhile (· ≠ sep)

theorem pieces_ne_nil (sep : Char) (text : List Char) : pieces sep text ≠ [] := by
  induction text with
  | nil => simp [pieces]
  | cons c rest ih =>
      simp only [pieces]
      split
      · simp
      · split <;> simp

theorem join_pieces (sep : Char) (text : List Char) :
    join sep (pieces sep text) = text := by
  induction text with
  | nil => rfl
  | cons c rest ih =>
      by_cases h : c = sep
      · cases hp : pieces sep rest with
        | nil => exact absurd hp (pieces_ne_nil sep rest)
        | cons piece more => simp_all [pieces, join]
      · cases hp : pieces sep rest with
        | nil => exact absurd hp (pieces_ne_nil sep rest)
        | cons piece more =>
            cases more with
            | nil => simp_all [pieces, join]
            | cons next more => simp_all [pieces, join]

theorem cut_eq_some {sep : Char} {text before after : List Char}
    (h : cut sep text = some (before, after)) :
    text = before ++ sep :: after ∧ sep ∉ before := by
  induction text generalizing before after with
  | nil => simp [cut] at h
  | cons c rest ih =>
      simp only [cut] at h
      split at h
      · rename_i hc
        simp only [Option.some.injEq, Prod.mk.injEq] at h
        obtain ⟨rfl, rfl⟩ := h
        simp [hc]
      · rename_i hc
        simp only [Option.map_eq_some_iff, Prod.mk.injEq, Prod.exists] at h
        obtain ⟨b, a, hcut, rfl, rfl⟩ := h
        obtain ⟨rfl, hb⟩ := ih hcut
        simp [hb, Ne.symm hc]

theorem cut_append {sep : Char} {before : List Char} (after : List Char)
    (h : sep ∉ before) : cut sep (before ++ sep :: after) = some (before, after) := by
  induction before with
  | nil => simp [cut]
  | cons c rest ih =>
      simp only [List.mem_cons, not_or] at h
      simp [cut, Ne.symm h.1, ih h.2]

/-!
# Known beginnings

A table name, the word before an index or the scheme of a channel is removed only
where the text really starts with it.
-/

def after? (start text : List Char) : Option (List Char) :=
  if start.isPrefixOf text then some (text.drop start.length) else none

/-!
# Blanks

Blank characters are those with the Unicode property `White_Space`.
-/

def isBlank (c : Char) : Bool :=
  let n := c.toNat
  (9 ≤ n && n ≤ 13) || n == 0x20 || n == 0x85 || n == 0xA0 || n == 0x1680
    || (0x2000 ≤ n && n ≤ 0x200A) || n == 0x2028 || n == 0x2029 || n == 0x202F
    || n == 0x205F || n == 0x3000

def trimStart (text : List Char) : List Char :=
  text.dropWhile isBlank

def trimEnd (text : List Char) : List Char :=
  (text.reverse.dropWhile isBlank).reverse

def trim (text : List Char) : List Char :=
  trimEnd (trimStart text)

/-- The items of a comma-separated list, without the blanks around them and
without empty items. -/
def items (text : List Char) : List (List Char) :=
  ((pieces ',' text).map trim).filter (· ≠ [])

end Text
end RouteAudit
