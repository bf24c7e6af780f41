import ResolverSetup.Association
import ResolverSetup.Artifact.Handler
/-! Artifact kinds, as the resolution engine looks them up. -/
namespace ResolverSetup.Artifact

structure Kind where
  id : String
  extension : String
  classifier : String
  language : String
  constitutesBuildPath : Bool
  includesDependencies : Bool
deriving DecidableEq

namespace Kind

def ofHandler (h : Handler) : Kind :=
  ⟨h.type, h.fileExtension, h.classifier.getD "", h.language, h.addedToClasspath,
    h.includesDependencies⟩

def text (k : Kind) : String :=
  recordText "ArtifactType"
    [("id", Text.quoted k.id), ("extension", Text.quoted k.extension),
      ("classifier", Text.quoted k.classifier), ("language", Text.quoted k.language),
      ("constitutes_build_path", boolText k.constitutesBuildPath),
      ("includes_dependencies", boolText k.includesDependencies)]

end Kind

structure KindRegistry where
  entries : Association String Kind
deriving DecidableEq

namespace KindRegistry

def insert (r : KindRegistry) (h : Handler) : KindRegistry :=
  ⟨r.entries.put h.type (.ofHandler h)⟩

def ofHandlers (hs : List Handler) : KindRegistry := hs.foldl insert ⟨[]⟩

def extended (extra : List Handler) : KindRegistry := ofHandlers (Handler.standard ++ extra)

def types (r : KindRegistry) : List String := r.entries.keys

def contains (r : KindRegistry) (type : String) : Bool := r.types.contains type

def find? (r : KindRegistry) (type : String) : Option Kind := r.entries.get? type

/-- The kind of a type; one that is not registered gets a plain kind of its own. -/
def get (r : KindRegistry) (type : String) : Kind :=
  (r.find? type).getD (.ofHandler (.plain type))

end KindRegistry
end ResolverSetup.Artifact
