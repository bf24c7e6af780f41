import ResolverSetup.FileTree
/-! Directories made along a path that is taken as it is written. -/
namespace ResolverSetup.FileTree

/-- A path cut in front of its last name. Slashes between the two are dropped, unless the path
begins with them. -/
def cutLast (s : List Char) : List Char × List Char :=
  let name := (s.reverse.takeWhile (· != '/')).reverse
  let front := s.take (s.length - name.length)
  (if front.all (· == '/') then front else Path.withoutEndSlashes front, name)

def cutLastName (s : List Char) : List Char × List Char :=
  let (front, name) := cutLast s
  if name.isEmpty then cutLast front else (front, name)

def namesDirectory (s : List Char) : Bool :=
  let name := (cutLast s).2
  name.isEmpty || name == ['.']

def seen? (t : FileTree) (s : List Char) : Option FileNode :=
  if s.isEmpty then none
  else match t.look (String.ofList s) with
    | .ok (some (.file c)) => if namesDirectory s then none else some (.file c)
    | .ok n => n
    | .error _ => none

def makeLast (t : FileTree) (s : List Char) : FileTree × Except Fault Unit :=
  let path := String.ofList s
  let (front, name) := cutLast (Path.withoutEndSlashes s)
  let last := String.ofList name
  if s.contains '\x00' then (t, .error .nullCharacter)
  else if s.isEmpty then (t, .error (.blocked .missing path))
  else if maxPathSize < path.utf8ByteSize then (t, .error (.blocked .tooLong path))
  else match t.walk (.start (.ofText path)) (Path.namesOf front) with
    | .error o => (t, .error (.blocked o path))
    | .ok p =>
      match t.find? p with
      | none => (t, .error (.blocked .missing path))
      | some (.file _) => (t, .error (.blocked .throughFile path))
      | some .directory =>
        if name.isEmpty || last = "." || last = ".." then (t, .error (.occupied path))
        else if maxNameSize < last.utf8ByteSize then (t, .error (.blocked .tooLong path))
        else match t.find? (p.child last) with
          | some _ => (t, .error (.occupied path))
          | none => (t.insert (p.child last) .directory, .ok ())

def ensureLast (t : FileTree) (s : List Char) : FileTree × Except Fault Unit :=
  match t.makeLast s with
  | (t, .error .nullCharacter) => (t, .error .nullCharacter)
  | (t, .error f) => if t.seen? s == some .directory then (t, .ok ()) else (t, .error f)
  | (t, .ok ()) => (t, .ok ())

/-- Makes the directories along a path, where nothing stands yet. Behind a directory just made, a
point needs no directory of its own. The first argument bounds the number of names. -/
def ensureAlong : Nat → FileTree → List Char → FileTree × Except Fault Unit
  | 0, t, s => t.ensureLast s
  | k + 1, t, s =>
    let (front, name) := cutLastName s
    if front.isEmpty || name.isEmpty || (t.seen? front).isSome then t.ensureLast s
    else match ensureAlong k t front with
      | (t, .ok ()) | (t, .error (.occupied _)) =>
        if name = ['.'] then (t, .ok ()) else t.ensureLast s
      | (t, .error f) => (t, .error f)

def makeDirectory (t : FileTree) (path : String) : FileTree × Except Fault Unit :=
  ensureAlong path.length t path.toList

end ResolverSetup.FileTree
