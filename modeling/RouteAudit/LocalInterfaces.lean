import RouteAudit.Pattern.Reader
import RouteAudit.Settings.Basic
import RouteAudit.Settings.File

/-!
# Local interfaces

Routes over local interfaces are never programmed.  Management interfaces are known by
their names; loopback-style interfaces match one of the patterns as a whole.
-/

namespace RouteAudit

structure LocalInterfaces where
  names : List String
  patterns : List Pattern.Expr
  deriving Repr

namespace LocalInterfaces

def isManagement (l : LocalInterfaces) (interface : String) : Bool :=
  l.names.contains interface

def isLoopbackStyle (l : LocalInterfaces) (interface : String) : Bool :=
  l.patterns.any fun p => p.found interface.toList

/-!
# Building

The interfaces inside a chassis count as management interfaces.  The first pattern that the
engine does not take is the fault.
-/

def readPattern (engine : Pattern.Engine) (pattern : String) : Attempt Pattern.Expr :=
  match Pattern.anchored? engine pattern with
  | some e => .ok e
  | none => .error (.settings (.badPattern pattern))

def ofNames (engine : Pattern.Engine) (names : List String) (c : CheckSettings) :
    Attempt LocalInterfaces := do
  let patterns ← c.localPatterns.mapM (readPattern engine)
  return ⟨names, patterns⟩

def ofSettings (files : Files) (c : CheckSettings)
    (engine : Pattern.Engine := Pattern.Engine.roomy) : Logged (Attempt LocalInterfaces) :=
  match c.chassisFile with
  | none => pure (ofNames engine c.localInterfaces c)
  | some path =>
      match ChassisFile.load (files path) with
      | .error f => pure (.error f)
      | .ok inside =>
          ⟨ofNames engine (c.localInterfaces ++ inside) c,
            [.debug "Loaded chassis-internal interfaces"
              [("count", toString inside.length), ("path", path)]]⟩

end LocalInterfaces
end RouteAudit
