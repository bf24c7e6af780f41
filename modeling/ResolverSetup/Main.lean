import ResolverSetup.CommandLine
import Std.Time.Format
/-! The program: reads the world, runs the command line, and writes what the run leaves behind. -/
open ResolverSetup

def processEnvironment : IO Environment := do
  let bytes ← IO.FS.readBinFile "/proc/self/environ" <|> pure .empty
  match Text.decode bytes.toList with
  | .error _ => return []
  | .ok s => return (Text.pieces (· == '\x00') s).filterMap fun v =>
      match v.dropWhile (· != '=') with
      | _ :: value => some (String.ofList (v.takeWhile (· != '=')), String.ofList value)
      | [] => none

def systemText (path fallback : String) : IO String := do
  let text ← IO.FS.readFile path <|> pure fallback
  return String.ofList (text.toList.takeWhile (· != '\n'))

def fieldsOf (separator : Char) (s : String) : List (List String) :=
  (Text.pieces (· == '\n') s.toList).map fun l => (Text.pieces (· == separator) l).map String.ofList

/-- The accounts of this host, each on a line with its name, number and home in fixed places. -/
def hostAccounts : IO Accounts := do
  let lines := fieldsOf ':' (← IO.FS.readFile "/etc/passwd" <|> pure "")
  let status := fieldsOf '\t' (← IO.FS.readFile "/proc/self/status" <|> pure "")
  let number := (status.find? (·.head? == some "Uid:")).bind (·[1]?)
  let home (place : Nat) (key : String) : Option String :=
    (lines.find? (·[place]? == some key)).bind (·[5]?)
  return ⟨number.bind (home 2), home 0⟩

def hostNow : IO Host := do
  return {
    runtime := "3.11"
    system := ← systemText "/proc/sys/kernel/ostype" "Linux"
    release := ← systemText "/proc/sys/kernel/osrelease" ""
    version := .found "0.1.0"
    accounts := ← hostAccounts }

/-- Takes what stands at a path, and at the directories on the way, into a tree. -/
def inspect (tree : FileTree) (path : String) : IO FileTree := do
  let here ← IO.currentDir
  let p := Path.ofText path
  let mut tree := tree
  let mut place := Place.start p
  for name in p.names do
    place := place.step name
    let file := here / place.text
    if ← file.isDir then
      tree := tree.insert place .directory
      unless ← (file / ".").isDir do
        tree := { tree with closed := place :: tree.closed }
    else if ← file.pathExists then
      tree := tree.insert place (.file (.octets (← IO.FS.readBinFile file).toList))
  return tree

def logPaths (s : Settings) : List String :=
  if s.fileLogging then
    let file := s.logDirectory ++ "/" ++ packageLogger ++ ".log"
    file :: (List.range LoggerSetup.standardBackupCount.toNat).map fun k =>
      file ++ "." ++ toString (k + 1)
  else []

def gatherFiles (readers : Readers) (env : Environment) (accounts : Accounts) (path : String) :
    IO FileTree := do
  let mut tree ← inspect .empty Settings.fileName
  match readers.settings env tree with
  | .ok s => for p in logPaths s do tree ← inspect tree p
  | .error _ => pure ()
  tree ← inspect tree path
  match (RequestFile.loadRequest readers.yaml env accounts tree path).outcome with
  | .ok r => inspect tree r.localRepository.text
  | .error _ => return tree

def writeFiles (old new : FileTree) : IO Unit := do
  let here ← IO.currentDir
  for (place, node) in new.entries do
    if old.find? place != some node then
      match node with
      | .directory => IO.FS.createDirAll (here / place.text)
      | .file (.text s) => IO.FS.writeFile (here / place.text) s
      | .file (.octets bs) => IO.FS.writeBinFile (here / place.text) ⟨bs.toArray⟩
      | .file (.document _) => pure ()

def main (args : List String) : IO UInt32 := do
  let env ← processEnvironment
  let host ← hostNow
  let readers := Readers.standard
  let tree ← match args with
    | [] => pure .empty
    | path :: _ => gatherFiles readers env host.accounts path
  let now ← Std.Time.Timestamp.now
  let time : Timestamp := ⟨now.toSecondsSinceUnixEpoch.val.toNat⟩
  match CommandLine.run ⟨env, tree, host, time, readers⟩ args with
  | .ok r =>
    writeFiles tree r.tree
    (← IO.getStderr).putStr r.errors
    (← IO.getStdout).putStr r.output
    return r.status.code.toUInt32
  | .error f =>
    (← IO.getStderr).putStrLn f.message
    return 1
