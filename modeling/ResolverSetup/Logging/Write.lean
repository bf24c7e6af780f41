import ResolverSetup.Logging.Setup
/-! Entries on their way to the handlers of a logger and of those above it. -/
namespace ResolverSetup.Logging

/-- Whether a logger belongs to the one of a name above it. A name that begins the word for the
logger above all takes up only loggers that are made after it. -/
def takesUp (l : Logging) (upper name : String) : Bool :=
  let made := l.loggers.keys
  made.contains upper &&
    (!upper.toList.isPrefixOf rootName.toList || made.idxOf upper ≤ made.idxOf name)

def namesUp (l : Logging) : Nat → String → List String
  | 0, _ => [""]
  | k + 1, name =>
    if name.isEmpty then [name]
    else match (LoggerName.above name).find? (l.takesUp · name) with
      | some upper => name :: namesUp l k upper
      | none => [name, ""]

def chain (l : Logging) (name : String) : List Logger :=
  (l.namesUp name.length (key name)).map l.find

def effectiveLevel (l : Logging) (name : String) : Level :=
  ((l.chain name).findSome? (·.level)).getD .warning

def shiftBackups (tree : FileTree) (place : Place) : Nat → FileTree
  | 0 => tree
  | k + 1 =>
    let number (n : Nat) := place.withEnding ("." ++ toString n)
    shiftBackups (tree.move (number (k + 1)) (number (k + 2))) place k

def rotate (tree : FileTree) (place : Place) (backupCount : Int) : FileTree :=
  if 0 < backupCount then
    (shiftBackups tree place (backupCount.toNat - 1)).move place (place.withEnding ".1")
  else tree

/-- Appends a line to a file. Before the file with the line would reach its greatest size, the file
is rotated. -/
def writeLine (tree : FileTree) (place : Place) (maxBytes backupCount : Int) (line : String) :
    FileTree :=
  let full := 0 < maxBytes && maxBytes ≤ ((tree.size place + line.length : Nat) : Int)
  let tree := if full then rotate tree place backupCount else tree
  tree.append place line

/-- Hands an entry to a handler: the files, and what has been written to the console. An entry that
its pattern cannot take is lost. -/
def handle (time : Timestamp) (e : LogEntry) (state : FileTree × String) (h : Handler) :
    FileTree × String :=
  match h.format.line? time e, h.target with
  | none, _ => state
  | some line, .console => (state.1, state.2 ++ line)
  | some line, .file place maxBytes backupCount =>
    (writeLine state.1 place maxBytes backupCount line, state.2)

def write (l : Logging) (time : Timestamp) (e : LogEntry) : Logging × String :=
  if (l.effectiveLevel e.logger).weight ≤ e.level.weight then
    let handlers := (l.chain e.logger).flatMap (·.handlers)
    let (tree, console) := handlers.foldl (handle time e) (l.tree, "")
    ({ l with tree := tree }, console)
  else (l, "")

def log (l : Logging) (time : Timestamp) (level : Level) (name message : String) :
    Logging × String :=
  (l.register name).write time ⟨level, if key name = "" then rootName else name, message⟩

def writeAll (l : Logging) (time : Timestamp) : List LogEntry → Logging × String
  | [] => (l, "")
  | e :: es =>
    let (l, s) := l.write time e
    let (l, r) := l.writeAll time es
    (l, s ++ r)

end ResolverSetup.Logging
