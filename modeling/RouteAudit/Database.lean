import RouteAudit.Ascending

/-!
# Databases and their tables

The checker reads three databases.  A row is a hash of fields under a key, and the key
starts with the name of its table and the separator of the database.
-/

namespace RouteAudit

inductive Database where
  | appl
  | asic
  | config
  deriving DecidableEq, Repr

namespace Database

def all : List Database := [.appl, .asic, .config]

def name : Database → String
  | .appl => "APPL_DB"
  | .asic => "ASIC_DB"
  | .config => "CONFIG_DB"

def ofName? (text : String) : Option Database :=
  all.find? fun db => db.name = text

def separator : Database → Char
  | .config => '|'
  | .appl | .asic => ':'

/-- The beginning of the keys of a table. -/
def tableStart (db : Database) (table : String) : String :=
  table ++ db.separator.toString

end Database

/-- Field names and values of a row. -/
abbrev Fields := Table String

namespace Tables

/-!
# Names

The intended routes, the addresses of the interfaces, the neighbors and the routes of
virtual networks stand in the application database; device metadata and the cables of
dual top-of-rack devices in the configuration database.
-/

def route : String := "ROUTE_TABLE"

def interface : String := "INTF_TABLE"

def neighbor : String := "NEIGH_TABLE"

def vnetRoute : String := "VNET_ROUTE_TABLE"

def vnetTunnel : String := "VNET_ROUTE_TUNNEL_TABLE"

def deviceMetadata : String := "DEVICE_METADATA"

def localhost : String := "localhost"

def muxCable : String := "MUX_CABLE"

/-- The beginning of the keys under which the hardware's routes are filed. -/
def routeEntryStart : String := "ASIC_STATE:SAI_OBJECT_TYPE_ROUTE_ENTRY:"

end Tables

/-- A row of a table scan; the key stands without its table. -/
structure Row where
  key : String
  fields : Fields

namespace Row

def field? (r : Row) (name : String) : Option String := r.fields.get? name

end Row
end RouteAudit
