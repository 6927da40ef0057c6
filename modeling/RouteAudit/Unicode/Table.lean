import RouteAudit.CharSet

/-!
# Character tables

A table gives the characters that share a standard attribute, under the names of that
attribute.  Names are compared without regard to case, blanks, hyphens and low lines, and
a leading `is` does not count.
-/

namespace RouteAudit
namespace Unicode

structure Table where
  names : List String
  text : String

def Table.set (t : Table) : CharSet := .ofTable t.text

/-!
# Names
-/

def isIgnored (c : Char) : Bool :=
  c == ' ' || c == '_' || c == '-' || 128 ≤ c.toNat

def bareName (name : List Char) : List Char :=
  (name.filter fun c => !isIgnored c).map Char.toLower

/-- The form in which names are compared.  The name `isc` is no name with a leading `is`. -/
def plainName (name : List Char) : List Char :=
  let starts := (name.take 2).map Char.toLower = ['i', 's']
  let rest := bareName (if starts then name.drop 2 else name)
  if starts && rest == ['c'] then ['i', 's', 'c'] else rest

def Table.named (t : Table) (name : List Char) : Bool :=
  t.names.any fun n => bareName n.toList = name

/-- The set that goes by a name in its comparable form. -/
def find? (tables : List Table) (name : List Char) : Option CharSet :=
  (tables.find? fun t => t.named name).map Table.set

end Unicode
end RouteAudit
