import ResolverSetup.Credentials
import ResolverSetup.Value.Table
/-! Servers: credentials and connector configuration under the id of a repository. -/
namespace ResolverSetup

structure Server where
  id : String
  username : Option String
  password : Option Value
  privateKey : Option String
  passphrase : Option Value
  configuration : Option Table
  filePermissions : Option String
  directoryPermissions : Option String
deriving DecidableEq

namespace Server

def credentials (s : Server) : Option Credentials :=
  Credentials.ofParts? s.username s.password s.privateKey s.passphrase

def agrees (s t : Server) : Bool :=
  { s with password := none, passphrase := none, configuration := none } ==
      { t with password := none, passphrase := none, configuration := none } &&
    bothAgree Value.agrees s.password t.password &&
    bothAgree Value.agrees s.passphrase t.passphrase

def text (s : Server) : Except DigitFault String := do
  let configuration ← (s.configuration.elim Value.null (.map .writable)).spelled
  return recordText "Server"
    [("id", Text.quoted s.id), ("username", textLiteral s.username),
      ("private_key", textLiteral s.privateKey), ("configuration", configuration),
      ("file_permissions", textLiteral s.filePermissions),
      ("directory_permissions", textLiteral s.directoryPermissions)]

end Server

def transportKey : String := "wagonProvider"

def connectorEntries (t : Table) : Table :=
  Value.frozenEntries (t.filter fun e => !e.1.sameKey (.text transportKey))

def connectorConfiguration (t : Table) : Value := .map .readOnly (connectorEntries t)

end ResolverSetup
