import ResolverSetup.FileTree.Place
import ResolverSetup.Text.Quoted
import ResolverSetup.Text.Utf8
import ResolverSetup.Value
/-! Files and directories, as far as they are known. -/
namespace ResolverSetup

/-- What a file holds: text, octets that may be no text, or a document given as the value that it
stands for. -/
inductive Content
  | text (s : String)
  | octets (bytes : List UInt8)
  | document (v : Value)
deriving DecidableEq

namespace Content

def read? : Content → Option String
  | text s => some (String.ofList (Text.unifyLineEnds s.toList))
  | octets bs => (Text.decode bs).toOption.map fun s => String.ofList (Text.unifyLineEnds s)
  | document _ => none

end Content

inductive FileNode
  | directory
  | file (content : Content)
deriving DecidableEq

/-- The entries of a tree. A directory that holds something has an entry too, apart from those
without a name of their own. What lies in a closed directory cannot be seen. -/
structure FileTree where
  entries : Association Place FileNode
  closed : List Place
deriving DecidableEq

namespace FileTree

inductive Obstacle
  | missing
  | throughFile
  | tooLong
  | denied
deriving DecidableEq

inductive Fault
  | blocked (o : Obstacle) (path : String)
  | occupied (path : String)
  | isDirectory (path : String)
  | nullCharacter
deriving DecidableEq

def Fault.message : Fault → String
  | blocked .missing path => "[Errno 2] No such file or directory: " ++ Text.quoted path
  | blocked .throughFile path => "[Errno 20] Not a directory: " ++ Text.quoted path
  | blocked .denied path => "[Errno 13] Permission denied: " ++ Text.quoted path
  | blocked .tooLong path => "[Errno 36] File name too long: " ++ Text.quoted path
  | occupied path => "[Errno 17] File exists: " ++ Text.quoted path
  | isDirectory path => "[Errno 21] Is a directory: " ++ Text.quoted path
  | nullCharacter => "embedded null byte"

def empty : FileTree := ⟨[], []⟩

def find? (t : FileTree) (p : Place) : Option FileNode :=
  if p.names.isEmpty then some .directory
  else t.entries.get? p

def maxNameSize : Nat := 255

def maxPathSize : Nat := 4095

def walk (t : FileTree) (p : Place) : List String → Except Obstacle Place
  | [] => .ok p
  | n :: ns =>
    match t.find? p with
    | none => .error .missing
    | some (.file _) => .error .throughFile
    | some .directory =>
      if t.closed.contains p then .error .denied
      else if maxNameSize < n.utf8ByteSize then .error .tooLong
      else walk t (p.step n) ns

def place (t : FileTree) (path : String) : Except Obstacle Place :=
  if maxPathSize < path.utf8ByteSize then .error .tooLong
  else t.walk (.start (.ofText path)) (Path.ofText path).names

/-- What stands at a path. Where the way there is blocked there is nothing, except that a closed
directory and a name too long for the file system are faults. -/
def look (t : FileTree) (path : String) : Except Fault (Option FileNode) :=
  if path.toList.contains '\x00' then .ok none
  else match t.place path with
    | .ok p => .ok (t.find? p)
    | .error .tooLong => .error (.blocked .tooLong path)
    | .error .denied => .error (.blocked .denied path)
    | .error .missing | .error .throughFile => .ok none

def content? (t : FileTree) (path : String) : Except Fault (Option Content) :=
  (t.look path).map fun
    | some (.file c) => some c
    | _ => none

def insert (t : FileTree) (p : Place) (n : FileNode) : FileTree :=
  { t with entries := t.entries.put p n }

def remove (t : FileTree) (p : Place) : FileTree := { t with entries := t.entries.erase p }

def move (t : FileTree) (source target : Place) : FileTree :=
  match t.find? source with
  | some n => (t.remove source).insert target n
  | none => t

def withParents (t : FileTree) (p : Place) : FileTree :=
  (List.range (p.names.length - 1)).foldl (fun t k =>
    let above : Place := ⟨p.anchor, p.names.take (k + 1)⟩
    if (t.find? above).isNone then t.insert above .directory else t) t

def ofEntries (es : List (Place × FileNode)) : FileTree :=
  es.foldl (fun t e => (t.withParents e.1).insert e.1 e.2) empty

def files (t : FileTree) : List (Place × Content) :=
  t.entries.filterMap fun e => match e.2 with
    | .file c => if e.1.isBelowHere then some (e.1, c) else none
    | .directory => none

def append (t : FileTree) (p : Place) (s : String) : FileTree :=
  match t.find? p with
  | some (.file (.text old)) => t.insert p (.file (.text (old ++ s)))
  | some (.file (.octets old)) => t.insert p (.file (.octets (old ++ s.toUTF8.toList)))
  | _ => t.insert p (.file (.text s))

def openAt (t : FileTree) (p : Place) : Except Fault Place :=
  if p.text.toList.contains '\x00' then .error .nullCharacter
  else match t.walk ⟨p.anchor, []⟩ p.names with
    | .error o => .error (.blocked o p.text)
    | .ok q =>
      match t.find? q with
      | some .directory => .error (.isDirectory p.text)
      | _ => .ok q

def size (t : FileTree) (p : Place) : Nat :=
  match t.find? p with
  | some (.file (.text s)) => s.utf8ByteSize
  | some (.file (.octets bs)) => bs.length
  | _ => 0

end FileTree
end ResolverSetup
