import RouteAudit.RouteKey

/-!
# Changes of the programmed routes

A change says that a destination was added to the hardware's routes or removed from
them.  Those gathered over a while are two sets, in which neither order nor repeats are
kept.
-/

namespace RouteAudit

inductive ChangeKind where
  | add
  | remove
  deriving DecidableEq, Repr

def ChangeKind.name : ChangeKind → String
  | .add => "ADD"
  | .remove => "REMOVE"

structure Change where
  kind : ChangeKind
  key : RouteKey
  deriving DecidableEq, Repr

structure Drained where
  adds : KeySet
  removes : KeySet

namespace Drained

def empty : Drained := ⟨.empty, .empty⟩

def record (d : Drained) (c : Change) : Drained :=
  match c.kind with
  | .add => { d with adds := d.adds.put c.key }
  | .remove => { d with removes := d.removes.put c.key }

def isEmpty (d : Drained) : Bool :=
  d.adds.isEmpty && d.removes.isEmpty

end Drained
end RouteAudit
