/-!
# Settings values

A settings document is a table of values: texts, whole numbers, truth values, real
numbers, moments, arrays and tables.  No setting is a real number or a moment, so of these
only the kind is kept.
-/

namespace RouteAudit

inductive Toml where
  | string (s : String)
  | integer (n : Int)
  | real
  | boolean (b : Bool)
  | moment
  | array (items : List Toml)
  | table (entries : List (String × Toml))
  deriving Repr

namespace Toml

def entry? (name : String) (entries : List (String × Toml)) : Option Toml :=
  (entries.find? fun e => e.1 = name).map Prod.snd

end Toml
end RouteAudit
