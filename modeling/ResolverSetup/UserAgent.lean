import ResolverSetup.Value.Render
import ResolverSetup.Value.Table
import ResolverSetup.Environment
import ResolverSetup.Log
/-! The line by which the program presents itself to repositories. -/
namespace ResolverSetup

inductive VersionLookup
  | found (version : String)
  | missing
  | unreadable (cause : String)
  | broken (cause : String)
deriving DecidableEq

structure VersionFault where
  cause : String
deriving DecidableEq

def VersionFault.message (f : VersionFault) : String := Text.quoted f.cause

inductive UserAgentFault
  | version (f : VersionFault)
  | digits (f : DigitFault)
deriving DecidableEq

def UserAgentFault.message : UserAgentFault → String
  | version f => f.message
  | digits f => f.message

structure Host where
  runtime : String
  system : String
  release : String
  version : VersionLookup
  accounts : Accounts

namespace UserAgent

def distribution : String := "artifact-session"

def unknownVersion : String := "unknown-version"

def lookupFailed (distribution reason : String) : Traced VersionFault String := do
  Traced.note (.debug .userAgent ("Failed to read " ++ distribution ++ " version: " ++ reason))
  return unknownVersion

def installedVersion (host : Host) (distribution : String) : Traced VersionFault String :=
  match host.version with
  | .found v => return if v.isEmpty then unknownVersion else v
  | .missing => lookupFailed distribution ("No package metadata was found for " ++ distribution)
  | .unreadable cause => lookupFailed distribution cause
  | .broken cause => .fail ⟨cause⟩

def propertyOr (properties : Table) (key word fallback : String) :
    Except UserAgentFault String :=
  let v := properties.field key
  if v.isTrue then (v.written.map (word ++ ·)).mapError .digits else .ok fallback

def productVersion (host : Host) : Option String → Traced VersionFault String
  | some v => if v.isEmpty then installedVersion host distribution else .pure v
  | none => installedVersion host distribution

/-- Product, version, runtime and operating system. Properties override what the host says. -/
def line (host : Host) (product : String) (version : Option String) (properties : Table) :
    Traced UserAgentFault String := do
  let version ← (productVersion host version).mapError .version
  let runtime ← .ofExcept (propertyOr properties "java.version" "Java " ("Python " ++ host.runtime))
  let system ← .ofExcept (propertyOr properties "os.name" "" host.system)
  let release ← .ofExcept (propertyOr properties "os.version" "" host.release)
  return product ++ "/" ++ version ++ " (" ++ runtime ++ "; " ++ system ++ " " ++ release ++ ")"

end UserAgent
end ResolverSetup
