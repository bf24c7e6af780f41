import ResolverSetup.Value.Render
/-! Handlers: how the artifacts of a dependency type are packaged. -/
namespace ResolverSetup.Artifact

structure Handler where
  type : String
  extension : Option String
  classifier : Option String
  packaging : Option String
  language : String
  addedToClasspath : Bool
  includesDependencies : Bool
deriving DecidableEq

namespace Handler

def plain (type : String) : Handler := ⟨type, none, none, none, "none", false, false⟩

def fileExtension (h : Handler) : String :=
  match h.extension with
  | some e => if e.isEmpty then h.type else e
  | none => h.type

def text (h : Handler) : String :=
  recordText "ArtifactHandler"
    [("type", Text.quoted h.type), ("extension", textLiteral h.extension),
      ("classifier", textLiteral h.classifier), ("packaging", textLiteral h.packaging),
      ("language", Text.quoted h.language), ("added_to_classpath", boolText h.addedToClasspath),
      ("includes_dependencies", boolText h.includesDependencies)]

def java (type : String) (extension classifier packaging : Option String) (onClasspath : Bool) :
    Handler :=
  ⟨type, extension, classifier, packaging, "java", onClasspath, false⟩

def bundle (type : String) : Handler := ⟨type, none, none, none, "java", false, true⟩

def standard : List Handler :=
  [plain "pom",
    java "jar" none none none true,
    java "test-jar" (some "jar") (some "tests") (some "jar") true,
    java "maven-plugin" (some "jar") none none true,
    java "ejb" (some "jar") none none true,
    java "ejb-client" (some "jar") (some "client") (some "ejb") true,
    bundle "war",
    bundle "ear",
    bundle "rar",
    java "java-source" (some "jar") (some "sources") none false,
    java "javadoc" (some "jar") (some "javadoc") none true]

end Handler
end ResolverSetup.Artifact
