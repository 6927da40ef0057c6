import RouteAudit.Launch

/-!
# The program

Reads the files that the checker asks for, runs it, and prints what it says.
-/

namespace RouteAudit
namespace Launch

def fileError : IO.Error → FileState
  | .noFileOrDirectory _ _ _ => .absent
  | .inappropriateType _ _ _ => .refused FileState.directoryReason
  | .permissionDenied _ code _ => .refused ("Permission denied (os error " ++ toString code ++ ")")
  | error => .refused (toString error)

def readState (path : String) : IO FileState := do
  try
    let octets ← IO.FS.readBinFile path
    return .holds octets.toList
  catch error =>
    return fileError error

def readAll (paths : List String) : IO Files := do
  let states ← paths.mapM fun path => return (path, ← readState path)
  return fun path => ((states.find? fun s => s.1 = path).map Prod.snd).getD .absent

/-- The files that the settings name, together with the settings file itself. -/
def filesFor (arguments : CommandLine.Arguments) : IO Files := do
  let path := arguments.config.getD Settings.defaultPath
  let files ← readAll [path]
  match (Settings.load files arguments.config).value with
  | .ok settings => readAll (path :: settings.check.chassisFile.toList)
  | .error _ => return files

def unreachable : String := "Connection refused (os error 111)"

def printLines (lines : List String) : IO Unit :=
  lines.forM fun line => IO.eprintln line

def readClock : IO Clock.Reading := do
  return (Clock.Reading.zero.add? (← IO.monoNanosNow)).getD .booted

/-- Checks again and again, with a pause after each check, until it crashes. -/
partial def repeatChecks (mode : Mode) (interval : Nat) (c : Checker) : IO Unit := do
  if (c.deadline? (← readClock)).isSome then
    let (_, events, output, c) := c.once
    printLines (lines mode (events ++ [Schedule.scheduledEvent interval]))
    IO.print output
    IO.sleep (UInt32.ofNat (interval * 1000))
    repeatChecks mode interval c
  else
    IO.eprintln Clock.overflowMessage

def runWith (arguments : CommandLine.Arguments) : IO UInt32 := do
  if arguments.logToSyslog then
    IO.eprintln "route_check: Failed to open the local syslog socket"
    return 1
  let machine : Machine := ⟨← filesFor arguments, unreachable⟩
  let prepared := prepare machine .roomy arguments
  match prepared.value with
  | .ok c =>
      match c.schedule.interval with
      | some interval =>
          printLines (lines arguments.mode prepared.events)
          repeatChecks arguments.mode interval c
          return UInt32.ofNat crashCode
      | none => pure ()
  | .error _ => pure ()
  let result := run machine .roomy arguments (← readClock)
  printLines result.errorLines
  IO.print result.output
  return UInt32.ofNat result.exitCode

end Launch
end RouteAudit

open RouteAudit in
def main (arguments : List String) : IO UInt32 := do
  match CommandLine.parse arguments with
  | .ok arguments => Launch.runWith arguments
  | .error _ =>
      let result := Launch.respond ⟨fun _ => .absent, Launch.unreachable⟩ arguments
      Launch.printLines result.errorLines
      IO.print result.output
      return UInt32.ofNat result.exitCode
