import RouteAudit.Failure
import RouteAudit.Text.Split
import RouteAudit.Text.Utf8

/-!
# Files

What the checker learns from a file is known before it is read: the file is not there,
cannot be read, or holds octets.  Texts are well-formed UTF-8.
-/

namespace RouteAudit

inductive FileState where
  | absent
  | refused (reason : String)
  | holds (octets : Utf8.Octets)
  deriving DecidableEq, Repr

/-- The files of a machine by their paths. -/
abbrev Files := String → FileState

namespace FileState

def absentReason : String := "No such file or directory (os error 2)"

def directoryReason : String := "Is a directory (os error 21)"

def notTextReason : String := "stream did not contain valid UTF-8"

/-- The text of a file, or why there is none. -/
def text : FileState → Except String String
  | .absent => .error absentReason
  | .refused reason => .error reason
  | .holds octets =>
      match Utf8.decode? octets with
      | some text => .ok text
      | none => .error notTextReason

end FileState

/-!
# The chassis file

Lines of the chassis file are settings `name=value`.  The interfaces inside the chassis are
the items of the first setting of that name; without a file there are none.
-/

namespace ChassisFile

def settingName : List Char := "chassis_internal_intfs".toList

/-- The name and the value of a line. -/
def setting? (line : List Char) : Option (List Char × List Char) :=
  Text.cut '=' (Text.trim line)

def parse (text : String) : List String :=
  let settings := (Text.pieces '\n' text.toList).filterMap setting?
  match settings.find? fun s => Text.trim s.1 = settingName with
  | some (_, value) => (Text.items value).map String.ofList
  | none => []

def load (file : FileState) : Attempt (List String) :=
  match file with
  | .absent => .ok []
  | _ =>
      match file.text with
      | .ok text => .ok (parse text)
      | .error reason => .error (.io reason)

end ChassisFile
end RouteAudit
