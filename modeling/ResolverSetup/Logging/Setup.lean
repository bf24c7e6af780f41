import ResolverSetup.Logging.Format
import ResolverSetup.FileTree.Directory
/-! Loggers and how they are set up: their levels, and the handlers that write their entries. -/
namespace ResolverSetup

namespace LoggerName

def beforePoint? (s : List Char) : Option (List Char) :=
  match s.reverse.dropWhile (· != '.') with
  | _ :: c :: r => some (c :: r).reverse
  | _ => none

/-- The names above a name, at most as many as the first argument says. Of two adjacent points only
one separates: a name found ends before its own last character for the search of the next. -/
def namesOver : Nat → List Char → List (List Char)
  | 0, _ => []
  | k + 1, s =>
    match beforePoint? s with
    | some p => p :: namesOver k p.dropLast
    | none => []

def above (name : String) : List String :=
  (namesOver name.length name.toList).map String.ofList

def isUnder (upper name : String) : Bool := name == upper || (above name).contains upper

end LoggerName

/-- A file handler starts a new file when the old one would reach `maxBytes`, and keeps
`backupCount` old ones. -/
inductive HandlerTarget
  | file (place : Place) (maxBytes : Int) (backupCount : Int)
  | console
deriving DecidableEq

structure Handler where
  target : HandlerTarget
  format : LogFormat
deriving DecidableEq

structure Logger where
  level : Option Level
  handlers : List Handler
deriving DecidableEq

namespace Logger

def fresh : Logger := ⟨none, []⟩

end Logger

/-- The loggers by their names, in the order in which they were made, the one above all under the
empty name, and the files that they write to. -/
structure Logging where
  loggers : Association String Logger
  tree : FileTree
deriving DecidableEq

structure LoggerSetup where
  name : String
  directory : String
  level : String
  pattern : Option String
  timePattern : Option String
  toFile : Bool
  toConsole : Bool
  maxBytes : Int
  backupCount : Int
deriving DecidableEq

inductive SetupFault
  | unknownLevel (level : String)
  | noField (pattern : String)
  | file (f : FileTree.Fault)
deriving DecidableEq

def SetupFault.message : SetupFault → String
  | unknownLevel level =>
    "Invalid log level: " ++ level ++ ". Must be one of: " ++
      ", ".intercalate (Level.all.map Level.name)
  | noField pattern => "Invalid format '" ++ pattern ++ "' for '%' style"
  | file f => f.message

def upperAscii? (c : Char) : Option (List Char) :=
  match c with
  | 'ı' => some ['I']
  | 'ſ' => some ['S']
  | 'ß' => some ['S', 'S']
  | 'ﬀ' => some ['F', 'F']
  | 'ﬁ' => some ['F', 'I']
  | 'ﬂ' => some ['F', 'L']
  | 'ﬃ' => some ['F', 'F', 'I']
  | 'ﬄ' => some ['F', 'F', 'L']
  | 'ﬅ' => some ['S', 'T']
  | 'ﬆ' => some ['S', 'T']
  | c => if c.toNat < 0x80 then some [c.toUpper] else none

def Level.ofText? (s : String) : Option Level :=
  (s.toList.mapM upperAscii?).bind fun cs => Level.all.find? (·.name == String.ofList cs.flatten)

def orWhenEmpty (s : Option String) (standard : String) : String :=
  match s with
  | some t => if t.isEmpty then standard else t
  | none => standard

namespace LoggerSetup

def format (s : LoggerSetup) : LogFormat :=
  ⟨orWhenEmpty s.pattern LogFormat.standard.pattern,
    orWhenEmpty s.timePattern LogFormat.standard.timePattern⟩

def standardMaxBytes : Int := 10485760

def standardBackupCount : Int := 5

end LoggerSetup

namespace Logging

def rootName : String := "root"

def key (name : String) : String := if name = rootName then "" else name

def find (l : Logging) (name : String) : Logger :=
  (l.loggers.get? (key name)).getD .fresh

def put (l : Logging) (name : String) (x : Logger) : Logging :=
  { l with loggers := l.loggers.put (key name) x }

def register (l : Logging) (name : String) : Logging := l.put name (l.find name)

def openFile (tree : FileTree) (s : LoggerSetup) : FileTree × Except FileTree.Fault Place :=
  match tree.makeDirectory s.directory with
  | (tree, .error f) => (tree, .error f)
  | (tree, .ok ()) =>
    match tree.openAt (.ofPath ((Path.ofText s.directory).join (.ofText (s.name ++ ".log")))) with
    | .ok place => (tree.append place "", .ok place)
    | .error f => (tree, .error f)

def consoleHandlers (s : LoggerSetup) : List Handler :=
  if s.toConsole then [⟨.console, s.format⟩] else []

def makeHandlers (tree : FileTree) (s : LoggerSetup) :
    FileTree × Except SetupFault (List Handler) :=
  if !s.format.isValid then (tree, .error (.noField s.format.pattern))
  else if s.toFile then
    match openFile tree s with
    | (tree, .error f) => (tree, .error (.file f))
    | (tree, .ok place) =>
      (tree, .ok (⟨.file place s.maxBytes s.backupCount, s.format⟩ :: consoleHandlers s))
  else (tree, .ok (consoleHandlers s))

/-- Sets a logger up. An unknown level changes none; a known one is taken in any case, and
handlers are added unless there are some. -/
def setup (l : Logging) (s : LoggerSetup) : Logging × Except SetupFault Logger :=
  match Level.ofText? s.level with
  | none => (l.register s.name, .error (.unknownLevel s.level))
  | some level =>
    let x : Logger := { l.find s.name with level := some level }
    if x.handlers.isEmpty then
      match makeHandlers l.tree s with
      | (tree, .error f) => ({ l with tree := tree }.put s.name x, .error f)
      | (tree, .ok handlers) =>
        let x := { x with handlers := handlers }
        ({ l with tree := tree }.put s.name x, .ok x)
    else (l.put s.name x, .ok x)

end Logging
end ResolverSetup
