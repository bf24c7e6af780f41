import ResolverSetup.Text.Split
/-! Internet addresses in their text forms. -/
namespace ResolverSetup.Url

def isOctet (s : List Char) : Bool :=
  !s.isEmpty && s.length ≤ 3 && s.all Char.isDigit && (s.length = 1 || s.head? != some '0') &&
    s.foldl (fun n c => n * 10 + (c.toNat - 48)) 0 ≤ 255

def isDotted (s : List Char) : Bool :=
  let parts := Text.pieces (· == '.') s
  parts.length == 4 && parts.all isOctet

def isGroup (s : List Char) : Bool := !s.isEmpty && s.length ≤ 4 && s.all Text.isHexDigit

def expandTail (groups : List (List Char)) : Option (List (List Char)) :=
  let tail := groups.getLastD []
  if tail.contains '.' then
    if isDotted tail then some (groups.dropLast ++ [['0'], ['0']]) else none
  else some groups

/-- The groups around the gap: an empty group at an end belongs to the gap beside it. -/
def groupsFit (groups : List (List Char)) : Bool :=
  match groups.findIdx? (·.isEmpty) with
  | none => groups.length == 8 && groups.all isGroup
  | some _ =>
    let inner := (groups.drop 1).dropLast
    if inner.countP (·.isEmpty) = 1 then
      let gap := inner.findIdx (·.isEmpty) + 1
      let before := groups.take gap
      let after := groups.drop (gap + 1)
      let before := if before = [[]] then [] else before
      let after := if after = [[]] then [] else after
      before.length + after.length ≤ 7 && before.all isGroup && after.all isGroup
    else false

def withoutZone (s : List Char) : Option (List Char) :=
  match s.dropWhile (· != '%') with
  | [] => some s
  | _ :: zone => if zone.isEmpty || zone.contains '%' then none else some (s.takeWhile (· != '%'))

def isColonGrouped (s : List Char) : Bool :=
  match withoutZone s with
  | none => false
  | some body =>
    let groups := Text.pieces (· == ':') body
    if groups.length < 3 then false
    else match expandTail groups with
      | none => false
      | some groups => groups.length ≤ 9 && groupsFit groups

def isFuture (s : List Char) : Bool :=
  match s with
  | 'v' :: r =>
    match r.takeWhile Text.isHexDigit, r.dropWhile Text.isHexDigit with
    | _ :: _, '.' :: _ :: _ => true
    | _, _ => false
  | _ => false

end ResolverSetup.Url
