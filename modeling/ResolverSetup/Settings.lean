import ResolverSetup.Settings.Assignments
import ResolverSetup.Text.Case
import ResolverSetup.FileTree
/-! Settings of the program: its name for repositories, and its logging. The reader of settings
knows variables and a file of assignments, and no other source. -/
namespace ResolverSetup

structure Settings where
  productName : String
  productVersion : Option String
  logLevel : String
  logDirectory : String
  fileLogging : Bool
deriving DecidableEq

inductive SettingsFault
  | noFlag
  | undecodable (f : Text.DecodeFault)
deriving DecidableEq

structure SettingsOverrides where
  productName : Option String
  productVersion : Option (Option String)
  logLevel : Option String
  logDirectory : Option String
  fileLogging : Option Value

def SettingsFault.message : SettingsFault → String
  | noFlag => "file_logging: Input should be a valid boolean, unable to interpret input"
  | undecodable f => f.message

namespace SettingsOverrides

def none : SettingsOverrides := ⟨.none, .none, .none, .none, .none⟩

end SettingsOverrides

namespace Settings

def standard : Settings :=
  ⟨"artifact-session", none, "INFO", "/var/log/artifact-session", false⟩

def variableStart : String := "artifact_session_"

def fileName : String := ".env"

/-- The value of a setting among variables. The case of letters in names does not matter, and the
last of several variables counts. -/
def valueOf? (vars : Variables) (setting : String) : Option String :=
  (vars.reverse.find? fun v => Text.lowerText v.1 == variableStart ++ setting).bind (·.2)

def trueWords : List String := ["true", "1", "yes", "on", "t", "y"]
def falseWords : List String := ["false", "0", "no", "off", "f", "n"]

def flagOfText? (s : String) : Option Bool :=
  let w := String.ofList (s.toList.map Char.toLower)
  if trueWords.contains w then some true
  else if falseWords.contains w then some false
  else none

def flag? : Value → Option Bool
  | .bool b => some b
  | .text s => flagOfText? s
  | .int n => if n = 1 then some true else if n = 0 then some false else none
  | .real x => if x.isZero then some false else if x.toInt? = some 1 then some true else none
  | _ => none

def fileVariables (env : Environment) (tree : FileTree) : Except SettingsFault Variables :=
  match tree.content? fileName with
  | .ok (some (.text s)) => .ok (readVariables env (Text.unifyLineEnds s.toList))
  | .ok (some (.octets bs)) =>
    match Text.decode bs with
    | .ok s => .ok (readVariables env (Text.unifyLineEnds s))
    | .error f => .error (.undecodable f)
  | _ => .ok []

def lookup? (env : Environment) (file : Variables) (setting : String) : Option String :=
  match valueOf? (env.map fun v => (v.1, some v.2)) setting with
  | some v => some v
  | none => valueOf? file setting

def read (env : Environment) (tree : FileTree) (o : SettingsOverrides) :
    Except SettingsFault Settings :=
  match fileVariables env tree with
  | .error f => .error f
  | .ok file =>
    let look (given : Option String) (name absent : String) :=
      (given.orElse fun _ => lookup? env file name).getD absent
    let version := match o.productVersion with
      | some v => v
      | none => (lookup? env file "product_version").orElse fun _ => standard.productVersion
    let flag := match o.fileLogging with
      | some v => flag? v
      | none => match lookup? env file "file_logging" with
        | some s => flagOfText? s
        | none => some standard.fileLogging
    match flag with
    | none => .error .noFlag
    | some b => .ok {
        productName := look o.productName "product_name" standard.productName
        productVersion := version
        logLevel := look o.logLevel "log_level" standard.logLevel
        logDirectory := look o.logDirectory "log_dir" standard.logDirectory
        fileLogging := b }

/-- Settings without overrides are read once: they are kept as soon as a reading succeeds. -/
def readKept (kept : Option Settings) (env : Environment) (tree : FileTree) :
    Except SettingsFault Settings × Option Settings :=
  match kept with
  | some s => (.ok s, kept)
  | none =>
    match read env tree .none with
    | .ok s => (.ok s, some s)
    | .error f => (.error f, none)

end Settings
end ResolverSetup
