import ResolverSetup.Text.Classes
import ResolverSetup.Environment
/-! Files of variable assignments: `NAME=value` on lines, with comments, quotes and references. -/
namespace ResolverSetup.Settings

structure Assigned where
  name : List Char
  value : Option (List Char)
deriving DecidableEq

def isGap (c : Char) : Bool := Text.isBlank c && c != '\n' && c != '\r'

def skipGap (s : List Char) : List Char := s.dropWhile isGap

def skipLine (s : List Char) : List Char := (s.dropWhile (· != '\n')).drop 1

def untilQuote (q : Char) : List Char → Option (List Char × List Char)
  | [] => none
  | '\\' :: d :: s => (untilQuote q s).map fun (v, r) => ('\\' :: d :: v, r)
  | c :: s => if c = q then some ([], s) else (untilQuote q s).map fun (v, r) => (c :: v, r)

def escapeInDouble? : Char → Option Char
  | '\\' => some '\\'
  | '\'' => some '\''
  | '"' => some '"'
  | 'a' => some '\x07'
  | 'b' => some '\x08'
  | 'f' => some '\x0c'
  | 'n' => some '\n'
  | 'r' => some '\r'
  | 't' => some '\t'
  | 'v' => some '\x0b'
  | _ => none

def escapeInSingle? : Char → Option Char
  | '\\' => some '\\'
  | '\'' => some '\''
  | _ => none

def unescape (escape? : Char → Option Char) : List Char → List Char
  | '\\' :: c :: s =>
    match escape? c with
    | some d => d :: unescape escape? s
    | none => '\\' :: unescape escape? (c :: s)
  | c :: s => c :: unescape escape? s
  | [] => []

def withoutComment : List Char → List Char
  | [] => []
  | c :: s =>
    if Text.isBlank c && s.head? = some '#' then [] else c :: withoutComment s

def readAssigned (s : List Char) : Option (List Char × List Char) :=
  match skipGap s with
  | '\'' :: s => (untilQuote '\'' s).map fun (v, r) => (unescape escapeInSingle? v, r)
  | '"' :: s => (untilQuote '"' s).map fun (v, r) => (unescape escapeInDouble? v, r)
  | _ => some (Text.trim (withoutComment (s.takeWhile (· != '\n'))), s.dropWhile (· != '\n'))

def isNamePart (c : Char) : Bool := c != '=' && c != '#' && !Text.isBlank c

def readName : List Char → Option (List Char × List Char)
  | '\'' :: s =>
    match s.takeWhile (· != '\''), s.dropWhile (· != '\'') with
    | c :: n, _ :: r => some (c :: n, r)
    | _, _ => none
  | s =>
    let name := s.takeWhile isNamePart
    if name.isEmpty then none else some (name, s.dropWhile isNamePart)

def skipExport (s : List Char) : List Char :=
  if "export".toList.isPrefixOf s then
    let r := s.drop 6
    if r.head?.any isGap then skipGap r else s
  else s

def lineEnd? (s : List Char) : Option (List Char) :=
  let r := skipGap s
  let r := if r.head? = some '#' then r.dropWhile (· != '\n') else r
  match r with
  | [] => some []
  | c :: t => if c = '\n' then some t else none

/-- One assignment or comment, which begins with no blank, and the rest. A line that is neither is
skipped from the place on where it goes wrong. -/
def readLine (s : List Char) : Option Assigned × List Char :=
  let s := skipExport s
  if s.head? = some '#' then (none, skipLine s)
  else match readName s with
    | none => (none, skipLine s)
    | some (name, r) =>
      match skipGap r with
      | '=' :: t =>
        match readAssigned t with
        | none => (none, skipLine t)
        | some (value, r) =>
          match lineEnd? r with
          | some r => (some ⟨name, some value⟩, r)
          | none => (none, skipLine r)
      | r =>
        match lineEnd? r with
        | some r => (some ⟨name, none⟩, r)
        | none => (none, skipLine r)

def readLines : Nat → List Char → List Assigned
  | 0, _ => []
  | k + 1, s =>
    match s.dropWhile Text.isBlank with
    | [] => []
    | s =>
      let (line, rest) := readLine s
      line.toList ++ readLines k rest

def assignments (s : List Char) : List Assigned :=
  let s := if s.head? = some '\ufeff' then s.drop 1 else s
  readLines s.length s

/-- Replaces references in braces by values; an unknown variable is replaced by the default of its
reference, or by nothing. The first argument bounds the number of steps. -/
def substitute (value? : List Char → Option (List Char)) : Nat → List Char → List Char
  | 0, s => s
  | _, [] => []
  | k + 1, '$' :: '\x7b' :: s =>
    let isNameEnd (c : Char) := c == '\x7d' || c == ':'
    let name := s.takeWhile (!isNameEnd ·)
    match s.dropWhile (!isNameEnd ·) with
    | '\x7d' :: r => (value? name).getD [] ++ substitute value? k r
    | ':' :: '-' :: r =>
      match r.dropWhile (· != '\x7d') with
      | _ :: r' => (value? name).getD (r.takeWhile (· != '\x7d')) ++ substitute value? k r'
      | [] => '$' :: substitute value? k ('\x7b' :: s)
    | _ => '$' :: substitute value? k ('\x7b' :: s)
  | k + 1, c :: s => c :: substitute value? k s

/-- Variables with their values; one without a value has been named alone. -/
abbrev Variables := Association String (Option String)

def Variables.resolve (env : Environment) (known : Variables) (name : List Char) :
    Option (List Char) :=
  match known.get? (String.ofList name) with
  | some v => some ((v.getD "").toList)
  | none => (env.get? (String.ofList name)).map String.toList

def readVariables (env : Environment) (s : List Char) : Variables :=
  (assignments s).foldl (fun (known : Variables) a =>
    known.put (String.ofList a.name) (a.value.map fun v =>
      String.ofList (substitute (Variables.resolve env known) v.length v))) []

end ResolverSetup.Settings
