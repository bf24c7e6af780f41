import ResolverSetup.Log
/-! Listeners of repository events, alone and in chains. -/
namespace ResolverSetup

/-- An exception. It has words, unless finding them raises another. -/
inductive Failure
  | text (s : String)
  | unwordable (raised : Failure)
deriving DecidableEq

structure Event where
  type : String
  artifact : Option String
  repository : Option String
  failure : Option Failure
deriving DecidableEq

/-- A listener of unknown kind has a label for its kind and a name; it may fail after it has seen
an event. A reporter writes events to a log. A chain hands them on to its members. -/
inductive Listener
  | custom (label name : String) (failure : Option Failure)
  | reporter (logger : String)
  | chain (members : List Listener)

instance : Inhabited Listener := ⟨.chain []⟩

inductive Occurrence
  | seen (name type : String)
  | logged (entry : LogEntry)
deriving DecidableEq

namespace Event

def target (e : Event) : String :=
  match e.artifact with
  | some a => if a.isEmpty then e.repository.getD "" else a
  | none => e.repository.getD ""

def message (e : Event) : Except Failure String :=
  match e.failure with
  | none => .ok (e.type ++ ": " ++ e.target)
  | some (.text s) => .ok (e.type ++ ": " ++ e.target ++ " (" ++ s ++ ")")
  | some (.unwordable f) => .error f

def warningTypes : List String := ["ARTIFACT_DESCRIPTOR_INVALID", "ARTIFACT_DESCRIPTOR_MISSING"]

def infoTypes : List String := ["METADATA_INVALID", "ARTIFACT_INSTALLED", "METADATA_INSTALLED"]

def level (e : Event) : Level :=
  if warningTypes.contains e.type then .warning
  else if infoTypes.contains e.type then .info
  else .debug

end Event

structure Delivery where
  happened : List Occurrence
  failure : Option Failure
deriving DecidableEq

namespace Delivery

def quiet : Delivery := ⟨[], none⟩

def andThen (x y : Delivery) : Delivery :=
  match x.failure with
  | none => ⟨x.happened ++ y.happened, y.failure⟩
  | some _ => x

/-- The failure of a member of a chain ends in a warning, if there are words for it. Otherwise the
failure to find them is one of the chain. -/
def told (label : String) (x : Delivery) : Delivery :=
  match x.failure with
  | none => x
  | some (.text s) =>
    ⟨x.happened ++
      [.logged (.warning .events ("Repository listener " ++ label ++ " failed: " ++ s))], none⟩
  | some (.unwordable f) => ⟨x.happened, some f⟩

end Delivery

namespace Listener

def standardReporter : Listener := .reporter Component.events.logger

def label : Listener → String
  | custom label _ _ => label
  | reporter _ => "LoggingRepositoryListener"
  | chain _ => "ListenerChain"

mutual
def deliver (e : Event) : Listener → Delivery
  | .custom _ name failure => ⟨[.seen name e.type], failure⟩
  | .reporter logger =>
    match e.message with
    | .ok s => ⟨[.logged ⟨e.level, logger, s⟩], none⟩
    | .error f => ⟨[], some f⟩
  | .chain members => deliverAll e members

def deliverAll (e : Event) : List Listener → Delivery
  | [] => .quiet
  | l :: ls => ((deliver e l).told l.label).andThen (deliverAll e ls)
end

def chained (members : List Listener) (l : Listener) : List Listener := members ++ [l]

end Listener
end ResolverSetup
