import ResolverSetup.Request.Document
import ResolverSetup.Reference
import ResolverSetup.FileTree
import ResolverSetup.Yaml.Fault
/-! Request documents in files, with references to the environment expanded. How a text is read as
a document is left to a reader. -/
namespace ResolverSetup

inductive FileFault
  | absent (path : String)
  | blocked (f : FileTree.Fault)
  | undecodable (f : Text.DecodeFault)
  | malformed (f : YamlFault)
  | number (f : NumberFault)
  | noMapping (found : Value)
deriving DecidableEq

def FileFault.message : FileFault → String
  | absent path => "Request document not found: " ++ path
  | blocked f => f.message
  | undecodable f => f.message
  | malformed _ => "malformed document"
  | number f => f.message
  | noMapping found => "Request document root must be a mapping, got " ++ found.kindName

def FileFault.ofYaml : YamlFault → FileFault
  | .number f => .number f
  | f => .malformed f

inductive LoadFault
  | file (f : FileFault)
  | document (f : DocumentFault)
deriving DecidableEq

namespace RequestFile

def blockSize : Nat := 8192

variable (yaml : List Char → Except YamlFault Value)

def yamlValue (s : List Char) : Except FileFault Value :=
  (yaml (Text.unifyLineEnds s)).mapError .ofYaml

def contentValue : Content → Except FileFault Value
  | .document v => .ok v
  | .text s => yamlValue yaml s.toList
  | .octets bs =>
    match Text.decodeStream blockSize bs with
    | .ok s => yamlValue yaml s
    | .error f => .error (.undecodable f)

/-- A document from its value: a mapping, or nothing at all, which is as good as an empty one. -/
def documentOf (env : Environment) (path : Path) : Value → Traced FileFault Table
  | .null => do
    Traced.note (.debug .documents ("Request document " ++ path.text ++ " is empty"))
    return []
  | .map .writable t => do
    Traced.notes (Value.entriesMissing env t)
    return Value.entriesExpanded env t
  | v => .fail (.noMapping v)

def load (env : Environment) (tree : FileTree) (path : String) : Traced FileFault Table := do
  match tree.content? (Path.ofText path).text with
  | .error f => .fail (.blocked f)
  | .ok none => .fail (.absent path)
  | .ok (some c) => documentOf env (.ofText path) (← Traced.ofExcept (contentValue yaml c))

def loadRequest (env : Environment) (accounts : Accounts) (tree : FileTree) (path : String) :
    Traced LoadFault Request := do
  let doc ← (load yaml env tree path).mapError .file
  Traced.ofExcept ((Request.ofDocument env accounts doc).mapError .document)

end RequestFile
end ResolverSetup
