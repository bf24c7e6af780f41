import ResolverSetup.Value.Render
import ResolverSetup.FileTree
import ResolverSetup.Log
/-! Local storage of artifacts. -/
namespace ResolverSetup

structure LocalStore where
  basedir : Path
  contentType : String
deriving DecidableEq

namespace LocalStore

def text (s : LocalStore) : String :=
  s.basedir.text ++ " (" ++ (if s.contentType.isEmpty then "default" else s.contentType) ++ ")"

def recordText (s : LocalStore) : String :=
  ResolverSetup.recordText "LocalRepository"
    [("basedir", "PosixPath(" ++ Text.quoted s.basedir.text ++ ")"),
      ("content_type", Text.quoted s.contentType)]

def managerText (s : LocalStore) : String := "SimpleLocalRepositoryManager(" ++ s.text ++ ")"

def artifactPath (s : LocalStore) (artifact : String) : Path := s.basedir.join (.ofText artifact)

end LocalStore

inductive StoreProblem
  | notADirectory
  | unsupportedType
  | blocked (f : FileTree.Fault)
  | reported (reason : String)
deriving DecidableEq

structure StoreFault where
  store : LocalStore
  problem : StoreProblem
deriving DecidableEq

def StoreFault.message (f : StoreFault) : String :=
  match f.problem with
  | .notADirectory => "Local repository " ++ f.store.basedir.text ++ " is not a directory"
  | .blocked fault => fault.message
  | .unsupportedType => "Unsupported local repository type: " ++ f.store.contentType
  | .reported reason =>
    if reason.isEmpty then "No manager available for local repository " ++ f.store.text else reason

namespace LocalStore

def standardTypes : List String := ["", "default", "simple"]

/-- Takes a store into use: its directory must be one if it is there, and its content type must be
among those that can be managed. -/
def open? (tree : FileTree) (extraTypes : List String) (s : LocalStore) :
    Traced StoreFault LocalStore :=
  match tree.look s.basedir.text with
  | .error f => .fail ⟨s, .blocked f⟩
  | .ok (some (.file _)) => .fail ⟨s, .notADirectory⟩
  | _ =>
    if (standardTypes ++ extraTypes).contains s.contentType then do
      Traced.note (.debug .localStore ("Using local repository " ++ s.text))
      return s
    else .fail ⟨s, .unsupportedType⟩

end LocalStore
end ResolverSetup
