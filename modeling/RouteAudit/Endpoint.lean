import RouteAudit.Address
import RouteAudit.Database
import RouteAudit.Settings.Basic

/-!
# Remote databases

The databases of a namespace are reached at a local socket or at a host and a port.  This
module writes the address of a database and says which addresses cannot be opened.
-/

namespace RouteAudit
namespace Endpoint

def databaseNumber (s : DatabaseSettings) : Database → Nat
  | .appl => s.applNumber
  | .asic => s.asicNumber
  | .config => s.configNumber

def url (s : DatabaseSettings) (db : Database) : String :=
  let number := toString (databaseNumber s db)
  match s.socket with
  | some path => "redis+unix://" ++ path ++ "?db=" ++ number
  | none => "redis://" ++ s.host ++ ":" ++ toString s.port ++ "/" ++ number

/-!
# Faults of an address

The server part of an address starts behind the name of a user, if there is one, and ends at
the first slash, question mark or number sign.  It is a host, with or without a port; a few
signs stand in no host, and colons only in brackets.  The path of a socket is absolute.
-/

def serverPart (text : List Char) : List Char :=
  let authority := text.takeWhile fun c => c != '/' && c != '?' && c != '#'
  (authority.reverse.takeWhile (· != '@')).reverse

def isForbidden (c : Char) : Bool :=
  c == '\x00' || c == ' ' || c == '<' || c == '>' || c == '[' || c == ']' || c == '^' || c == '|'
    || c == '\\'

def isPort (text : List Char) : Bool :=
  text.isEmpty || (text.all Char.isDigit && (Numeral.read? 10 65535 text).isSome)

/-- Whether what follows a host in brackets may follow it. -/
def isPortSuffix : List Char → Bool
  | [] => true
  | ':' :: port => isPort port
  | _ => false

def isServer (text : List Char) : Bool :=
  match text with
  | '[' :: rest =>
      match Text.cut ']' rest with
      | some (address, suffix) => (Address.hextets? address).isSome && isPortSuffix suffix
      | none => false
  | _ =>
      match Text.cut ':' text with
      | some (host, port) => !host.isEmpty && !host.any isForbidden && isPort port
      | none => !text.any isForbidden

inductive Fault where
  | unreadable
  | noPath
  deriving DecidableEq, Repr

def Fault.message : Fault → String
  | .unreadable => "Redis URL did not parse- InvalidClientConfig"
  | .noPath => "Missing path- InvalidClientConfig"

def fault? (s : DatabaseSettings) : Option Fault :=
  match s.socket with
  | some path =>
      if path.toList.head? = some '/' then none
      else if isServer (serverPart path.toList) then some .noPath
      else some .unreadable
  | none =>
      if isServer (serverPart (s.host ++ ":" ++ toString s.port).toList) then none
      else some .unreadable

/-!
# Failures

The reason why a server cannot be reached is part of the machine's state.
-/

def openFailure (s : DatabaseSettings) (db : Database) (fault : Fault) : Failure :=
  .store "open" (db.name ++ " (" ++ url s db ++ "): " ++ fault.message)

/-- The failure of a request to a database behind which no server answers. -/
def readFailure (s : DatabaseSettings) (reason : String) (db : Database) : Failure :=
  match fault? s with
  | some fault => openFailure s db fault
  | none => .store "connect" (db.name ++ ": " ++ reason)

def subscribeFailure (s : DatabaseSettings) (reason : String) : Failure :=
  match fault? s with
  | some fault => openFailure s .asic fault
  | none => .store "subscribe" reason

end Endpoint
end RouteAudit
