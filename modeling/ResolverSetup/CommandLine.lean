import ResolverSetup.Logging.Write
import ResolverSetup.Request.File
import ResolverSetup.Session.Build
import ResolverSetup.Session.Summary
import ResolverSetup.Settings
import ResolverSetup.Yaml.Node
/-! The command line: a request document in, the description of its session out. -/
namespace ResolverSetup

/-- How documents and settings are read is not for the program to say: it is given readers for both.
-/
structure Readers where
  yaml : List Char → Except YamlFault Value
  settings : Environment → FileTree → Except SettingsFault Settings

-- Readers of its own, which know the usual forms of documents and settings and not all there are.
def Readers.standard : Readers := ⟨Yaml.read, fun env tree => Settings.read env tree .none⟩

structure World where
  env : Environment
  tree : FileTree
  host : Host
  time : Timestamp
  readers : Readers

inductive ExitStatus
  | done
  | usage
  | badRequest
  | noSession
deriving DecidableEq

def ExitStatus.code : ExitStatus → Nat
  | done => 0
  | usage => 1
  | badRequest => 2
  | noSession => 3

structure CommandResult where
  status : ExitStatus
  output : String
  errors : String
  tree : FileTree

inductive CommandFault
  | settings (f : SettingsFault)
  | setup (f : SetupFault)
  | load (f : LoadFault)
  | build (f : BuildFault)
deriving DecidableEq

def LoadFault.message : LoadFault → String
  | .file (.malformed _) => "<yaml error>"
  | .file f => f.message
  | .document f => f.message

def CommandFault.message : CommandFault → String
  | settings f => f.message
  | setup f => f.message
  | load f => f.message
  | build f => f.message

namespace CommandLine

def usageLine : String := "Usage: python -m artifact_session <request.yaml>\n"

def errorLine (message : String) : String := "Error: " ++ message ++ "\n"

/-- Faults of a request that are reported. An infinite port, a number that overflows and a path too
long are none of them. -/
def isReported : LoadFault → Bool
  | .document .infinitePort | .file (.blocked _) => false
  | .file (.number f) => !f.isOverflow
  | _ => true

def isStoreReported (f : StoreFault) : Bool :=
  match f.problem with
  | .blocked _ => false
  | _ => true

def loggerSetup (s : Settings) : LoggerSetup where
  name := packageLogger
  directory := s.logDirectory
  level := s.logLevel
  pattern := none
  timePattern := none
  toFile := s.fileLogging
  toConsole := true
  maxBytes := LoggerSetup.standardMaxBytes
  backupCount := LoggerSetup.standardBackupCount

def summaryText (s : Session Repository) : String :=
  String.join (s.summary.map (· ++ "\n"))

def report (w : World) (logging : Logging) (console : String)
    (x : Traced BuildFault (Session Repository)) : Except CommandFault CommandResult :=
  let (logging, more) := logging.writeAll w.time x.log
  match x.outcome with
  | .ok s => .ok ⟨.done, summaryText s, console ++ more, logging.tree⟩
  | .error (.store f) =>
    if isStoreReported f then
      .ok ⟨.noSession, "", console ++ more ++ errorLine f.message, logging.tree⟩
    else .error (.build (.store f))
  | .error f => .error (.build f)

def buildAndReport (w : World) (settings : Settings) (logging : Logging) (console : String)
    (request : Request) : Except CommandFault CommandResult :=
  let b := Builder.standard ⟨settings.productName, settings.productVersion⟩ w.host logging.tree
  report w logging console (b.run request).1

def loadAndBuild (w : World) (settings : Settings) (logging : Logging) (path : String) :
    Except CommandFault CommandResult :=
  let x := RequestFile.loadRequest w.readers.yaml w.env w.host.accounts logging.tree path
  let (logging, console) := logging.writeAll w.time x.log
  match x.outcome with
  | .ok request => buildAndReport w settings logging console request
  | .error f =>
    if isReported f then
      .ok ⟨.badRequest, "", console ++ errorLine f.message, logging.tree⟩
    else .error (.load f)

def run (w : World) : List String → Except CommandFault CommandResult
  | [] => .ok ⟨.usage, "", usageLine, w.tree⟩
  | path :: _ =>
    match w.readers.settings w.env w.tree with
    | .error f => .error (.settings f)
    | .ok settings =>
      match Logging.setup ⟨[], w.tree⟩ (loggerSetup settings) with
      | (_, .error f) => .error (.setup f)
      | (logging, .ok _) => loadAndBuild w settings logging path

end CommandLine
end ResolverSetup
