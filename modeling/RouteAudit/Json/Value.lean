import RouteAudit.Binary64

/-!
# JSON values

Reports and the records of the routing daemon are JSON.  Numbers keep the kind in which
they were written: whole numbers from `-2^63` to `2^64 - 1` keep all their digits, others
are binary floating point, and numbers of different kinds differ.  The fields of an object
stand in ascending order of their names.
-/

namespace RouteAudit
namespace Json

inductive Number where
  | natural (n : Nat)
  | negative (n : Nat)
  | real (x : Binary64)
  deriving DecidableEq, Repr

def Number.same : Number → Number → Bool
  | .natural m, .natural n => m == n
  | .negative m, .negative n => m == n
  | .real x, .real y => x.same y
  | _, _ => false

end Json

inductive Json where
  | null
  | bool (b : Bool)
  | number (n : Json.Number)
  | string (s : String)
  | array (items : List Json)
  | object (fields : List (String × Json))
  deriving Repr

namespace Json

instance : Inhabited Json := ⟨.null⟩

def ofNat (n : Nat) : Json := .number (.natural n)

/-!
# Objects

A field of a name that is already there is replaced.
-/

def putField (name : String) (value : Json) : List (String × Json) → List (String × Json)
  | [] => [(name, value)]
  | (n, v) :: rest =>
      if name < n then (name, value) :: (n, v) :: rest
      else if name = n then (name, value) :: rest
      else (n, v) :: putField name value rest

def ofFields (fields : List (String × Json)) : Json :=
  .object (fields.foldl (fun sorted (name, value) => putField name value sorted) [])

def field? (name : String) : Json → Option Json
  | .object fields => (fields.find? fun f => f.1 = name).map Prod.snd
  | _ => none

def withoutField (name : String) : Json → Json
  | .object fields => .object (fields.filter fun f => f.1 ≠ name)
  | value => value

def asText? : Json → Option String
  | .string s => some s
  | _ => none

def asBool? : Json → Option Bool
  | .bool b => some b
  | _ => none

def texts (items : List String) : Json :=
  .array (items.map .string)

/-!
# Sameness

Values are the same when they agree in kind and content; the two floating-point zeros
count as one number.
-/

mutual

def same : Json → Json → Bool
  | .null, .null => true
  | .bool a, .bool b => a == b
  | .number m, .number n => m.same n
  | .string s, .string t => s == t
  | .array xs, .array ys => sameItems xs ys
  | .object xs, .object ys => sameFields xs ys
  | _, _ => false

def sameItems : List Json → List Json → Bool
  | [], [] => true
  | x :: xs, y :: ys => same x y && sameItems xs ys
  | _, _ => false

def sameFields : List (String × Json) → List (String × Json) → Bool
  | [], [] => true
  | (m, x) :: xs, (n, y) :: ys => m == n && same x y && sameFields xs ys
  | _, _ => false

end

end Json
end RouteAudit
