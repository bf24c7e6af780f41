import ResolverSetup.Server
/-! Properties that repository connectors look up. -/
namespace ResolverSetup

inductive PropertyKey
  | userAgent
  | interactive
  | configuration (server : String)
  | fileMode (server : String)
  | directoryMode (server : String)
deriving DecidableEq

namespace PropertyKey

def text : PropertyKey → String
  | userAgent => "aether.connector.userAgent"
  | interactive => "aether.interactive"
  | configuration server => "aether.connector.wagon.config." ++ server
  | fileMode server => "aether.connector.perms.fileMode." ++ server
  | directoryMode server => "aether.connector.perms.dirMode." ++ server

def toValue (k : PropertyKey) : Value := .text k.text

def ofServer (id : String) : List PropertyKey := [configuration id, fileMode id, directoryMode id]

end PropertyKey

def optionalText : Option String → Value
  | none => .null
  | some s => .text s

namespace Server

def properties (s : Server) : List (PropertyKey × Value) :=
  (s.configuration.map fun t =>
      (PropertyKey.configuration s.id, connectorConfiguration t)).toList ++
    [(.fileMode s.id, optionalText s.filePermissions),
      (.directoryMode s.id, optionalText s.directoryPermissions)]

end Server

def serverProperties (servers : List Server) : Table :=
  Table.ofEntries ((servers.flatMap Server.properties).map fun e => (e.1.toValue, e.2))

end ResolverSetup
