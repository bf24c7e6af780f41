import ResolverSetup.Yaml.Cursor
import ResolverSetup.Yaml.Fault
/-! Scalars of a YAML text, as far as they reach: plain ones and ones in quotes. -/
namespace ResolverSetup.Yaml

def isFlowSign (c : Char) : Bool :=
  c == ',' || c == '[' || c == ']' || c == '\x7b' || c == '\x7d'

/-- How far a plain scalar reaches on a line without blanks. A colon belongs to it unless a gap
follows, or in a flow collection one of the signs of these. -/
def plainLength (flow : Bool) : List Char → Nat
  | [] => 0
  | c :: r =>
    if isGap c || isBreak c then 0
    else if c = ':' && (atGap r || (flow && r.head?.any isFlowSign)) then 0
    else if flow && (isFlowSign c || c = '?') then 0
    else plainLength flow r + 1

def breaksAfter : List Char → List Char × Nat × Bool
  | [] => ([], 0, false)
  | c :: r =>
    if c = ' ' then
      let (bs, n, stop) := breaksAfter r
      (bs, n + 1, stop)
    else if isBreak c then
      if atSeparator r then ([keptBreak c], 1, true)
      else
        let (bs, n, stop) := breaksAfter r
        (keptBreak c :: bs, n + 1, stop)
    else ([], 0, false)

def foldBreaks (first : Char) (more : List Char) : List Char :=
  if first = '\n' then (if more.isEmpty then [' '] else more) else first :: more

/-- What stands between two pieces of a plain scalar: the characters that it is worth, whether
lines are broken, whether the scalar must end there, and the place after it. -/
structure PlainGap where
  worth : List Char
  broken : Bool
  ends : Bool
  after : Cursor

def plainGap (c : Cursor) : PlainGap :=
  let spaces := c.rest.takeWhile (· == ' ')
  let c := c.forward spaces.length
  match c.rest with
  | x :: r =>
    if isBreak x then
      let c := c.pass
      if atSeparator r then ⟨[], true, true, c⟩
      else
        let (more, n, stop) := breaksAfter r
        ⟨foldBreaks (keptBreak x) more, true, stop, c.forward n⟩
    else ⟨spaces, false, spaces.isEmpty, c⟩
  | [] => ⟨spaces, false, spaces.isEmpty, c⟩

structure PlainScalar where
  text : List Char
  after : Cursor
  broken : Bool

def readPlain (flow : Bool) (indent : Int) : Nat → List Char → Bool → Cursor → PlainScalar
  | 0, _, broken, c => ⟨[], c, broken⟩
  | k + 1, before, broken, c =>
    match c.rest.head?, plainLength flow c.rest with
    | some '#', _ => ⟨[], c, broken⟩
    | _, 0 => ⟨[], c, broken⟩
    | _, n =>
      let piece := c.rest.take n
      let gap := plainGap (c.forward n)
      if gap.ends || gap.after.rest.head? = some '#' ||
          (!flow && (gap.after.column : Int) < indent + 1) then
        ⟨before ++ piece, gap.after, gap.broken⟩
      else
        let r := readPlain flow indent k gap.worth gap.broken gap.after
        ⟨before ++ piece ++ r.text, r.after, r.broken⟩

def quotedBreaks (lineStart : Bool) (s : List Char) :
    Except YamlFault (List Char × List Char) :=
  if lineStart && atSeparator s then .error .unclosedQuote
  else match s with
    | [] => .ok ([], [])
    | c :: r =>
      if isGap c then quotedBreaks false r
      else if isBreak c then (quotedBreaks true r).map fun (bs, t) => (keptBreak c :: bs, t)
      else .ok ([], c :: r)

def escapeLetter? : Char → Option Char
  | '0' => some '\x00'
  | 'a' => some '\x07'
  | 'b' => some '\x08'
  | 't' => some '\t'
  | '\t' => some '\t'
  | 'n' => some '\n'
  | 'v' => some '\x0b'
  | 'f' => some '\x0c'
  | 'r' => some '\r'
  | 'e' => some '\x1b'
  | ' ' => some ' '
  | '"' => some '"'
  | '\\' => some '\\'
  | '/' => some '/'
  | 'N' => some '\u0085'
  | '_' => some '\u00a0'
  | 'L' => some '\u2028'
  | 'P' => some '\u2029'
  | _ => none

def escapeWidth? : Char → Option Nat
  | 'x' => some 2
  | 'u' => some 4
  | 'U' => some 8
  | _ => none

def maxCode : Nat := 0x7FFFFFFF

def characterOf (n : Nat) : Except YamlFault Char :=
  if h : n.isValidChar then .ok (Char.ofNatAux n h)
  else if maxCode < n then .error (.number .beyondCharacters)
  else if 0x110000 ≤ n then .error (.number .noCharacter)
  else .error .badEscape

def readEscape (c : Char) (s : List Char) : Except YamlFault (Char × List Char) :=
  match escapeLetter? c, escapeWidth? c with
  | some d, _ => .ok (d, s)
  | none, some n =>
    let digits := s.take n
    if digits.length = n && digits.all Text.isHexDigit then
      (characterOf (Text.hexValue digits)).map fun c => (c, s.drop n)
    else .error .badEscape
  | none, none => .error .badEscape

def afterReading (front : List Char) (x : Except YamlFault (List Char × List Char)) :
    Except YamlFault (List Char × List Char) :=
  x.map fun (t, r) => (front ++ t, r)

def readQuoted (quote : Char) : Nat → List Char → Except YamlFault (List Char × List Char)
  | 0, _ => .error .unclosedQuote
  | _, [] => .error .unclosedQuote
  | k + 1, c :: r =>
    if c = quote then
      if quote = '\'' && r.head? = some '\'' then
        afterReading ['\''] (readQuoted quote k (r.drop 1))
      else .ok ([], r)
    else if isGap c || isBreak c then
      let spaces := (c :: r).takeWhile isGap
      match (c :: r).dropWhile isGap with
      | [] => .error .unclosedQuote
      | x :: t =>
        if isBreak x then do
          let (more, t) ← quotedBreaks true t
          afterReading (foldBreaks (keptBreak x) more) (readQuoted quote k t)
        else afterReading spaces (readQuoted quote k (x :: t))
    else if quote = '"' && c = '\\' then
      match r with
      | [] => .error .badEscape
      | x :: t =>
        if isBreak x then do
          let (more, t) ← quotedBreaks true t
          afterReading more (readQuoted quote k t)
        else do
          let (d, t) ← readEscape x t
          afterReading [d] (readQuoted quote k t)
    else afterReading [c] (readQuoted quote k r)

end ResolverSetup.Yaml
