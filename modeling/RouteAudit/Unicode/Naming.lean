import RouteAudit.Unicode.Category
import RouteAudit.Unicode.Property
import RouteAudit.Unicode.Script

/-!
# Named sets of characters

A set is named by a property, by a general category or a group of them, or by a script; a
name may also say which of the latter two it means.
-/

namespace RouteAudit
namespace Unicode

def categorySet (name : String) : CharSet :=
  (find? categories (bareName name.toList)).getD .empty

def categoryUnion (names : List String) : CharSet :=
  .unions (names.map categorySet)

/-!
# Groups of categories
-/

def letterCases : List String := ["Lu", "Ll", "Lt"]

/-- The groups that are unions of categories, under their names. -/
def groups : List (List String × List String) :=
  [(["L", "Letter"], letterCases ++ ["Lm", "Lo"]),
    (["LC", "Cased_Letter"], letterCases),
    (["M", "Mark", "Combining_Mark"], ["Mn", "Mc", "Me"]),
    (["N", "Number"], ["Nd", "Nl", "No"]),
    (["P", "Punctuation", "punct"], ["Pc", "Pd", "Ps", "Pe", "Pi", "Pf", "Po"]),
    (["S", "Symbol"], ["Sm", "Sc", "Sk", "So"]),
    (["Z", "Separator"], ["Zs", "Zl", "Zp"])]

def assigned : CharSet := .unions (categories.map Table.set)

def anyNamed (names : List String) (name : List Char) : Bool :=
  names.any fun n => bareName n.toList = name

/-- A category or a group of categories. -/
def category? (name : List Char) : Option CharSet :=
  if anyNamed ["Any"] name then
    some CharSet.empty.complement
  else if anyNamed ["ASCII"] name then
    some ⟨[(0, 127)]⟩
  else if anyNamed ["Assigned"] name then
    some assigned
  else if anyNamed ["Cn", "Unassigned"] name then
    some assigned.complement
  else if anyNamed ["C", "Other"] name then
    some (assigned.complement.union (categoryUnion ["Cc", "Cf", "Co"]))
  else
    match groups.find? fun g => anyNamed g.1 name with
    | some (_, members) => some (categoryUnion members)
    | none => find? categories name

/-!
# Look-up

Three short names stand for a category although properties of other kinds share them.
-/

def set? (name : List Char) : Option CharSet :=
  let name := plainName name
  let property := if anyNamed ["cf", "sc", "lc"] name then none else find? properties name
  match property with
  | some s => some s
  | none =>
      match category? name with
      | some s => some s
      | none => find? scripts name

/-- A set named by the kind of attribute and one of its values. -/
def valueSet? (kind value : List Char) : Option CharSet :=
  let kind := plainName kind
  if anyNamed ["gc", "General_Category"] kind then category? (plainName value)
  else if anyNamed ["sc", "Script"] kind then find? scripts (plainName value)
  else none

def propertySet (name : String) : CharSet :=
  (find? properties (bareName name.toList)).getD .empty

/-- The characters of words: letters with their marks, digits, connectors and joiners. -/
def wordSet : CharSet :=
  .unions [propertySet "Alphabetic", categoryUnion ["Mn", "Mc", "Me", "Nd", "Pc"],
    propertySet "Join_Control"]

def digitSet : CharSet := categorySet "Nd"

def spaceSet : CharSet := propertySet "White_Space"

def letterSet : CharSet := propertySet "Alphabetic"

def letterOrNumberSet : CharSet := letterSet.union (categoryUnion ["Nd", "Nl", "No"])

end Unicode
end RouteAudit
