import ResolverSetup.Yaml.Scalar
/-! The tokens of a YAML text. Block collections are opened where an entry or a key stands further
right than before, and closed where the text falls back. -/
namespace ResolverSetup.Yaml

inductive Token
  | documentStart
  | documentEnd
  | openEntries
  | openKeys
  | closeBlock
  | entry
  | key
  | value
  | openList
  | closeList
  | openMap
  | closeMap
  | comma
  | scalar (text : String) (plain : Bool)
deriving DecidableEq

/-- Something that becomes a key if a colon follows on the same line: the number of tokens before
it and its place. A required one must become a key. -/
structure KeyCandidate where
  before : Nat
  required : Bool
  index : Nat
  line : Nat
  column : Nat

/-- The tokens read so far, the latest first, with what decides how the text goes on: the columns
of the open block collections, whether a key may begin here, and the key candidates of the open
flow collections, the innermost first and the one of the block last. -/
structure Lexer where
  cursor : Cursor
  tokens : List Token
  columns : List Nat
  keyAllowed : Bool
  candidate : Option KeyCandidate
  outer : List (Option KeyCandidate)

namespace Lexer

def start (s : List Char) : Lexer := ⟨.start s, [], [], true, none, []⟩

def inFlow (l : Lexer) : Bool := !l.outer.isEmpty

def indent (l : Lexer) : Int :=
  match l.columns with
  | [] => -1
  | n :: _ => n

def emit (l : Lexer) (t : Token) : Lexer := { l with tokens := t :: l.tokens }

def insert (l : Lexer) (before : Nat) (t : Token) : Lexer :=
  let later := l.tokens.length - before
  { l with tokens := l.tokens.take later ++ t :: l.tokens.drop later }

def gapBefore (comment : Bool) : List Char → Nat × Bool
  | [] => (0, false)
  | c :: r =>
    if isBreak c then
      let (n, _) := gapBefore false r
      (n + 1, true)
    else if comment || c = ' ' || c = '#' then
      let (n, broken) := gapBefore (comment || c = '#') r
      (n + 1, broken)
    else (0, false)

def toNext (l : Lexer) : Lexer :=
  let c := if l.cursor.index = 0 && l.cursor.rest.head? = some '\ufeff' then l.cursor.pass
    else l.cursor
  let (n, broken) := gapBefore false c.rest
  { l with cursor := c.forward n, keyAllowed := l.keyAllowed || (broken && !l.inFlow) }

/-- A candidate is out of date on another line or more than 1024 characters later. -/
def refresh (c : Cursor) : Option KeyCandidate → Except YamlFault (Option KeyCandidate)
  | none => .ok none
  | some k =>
    if k.line != c.line || 1024 < c.index - k.index then
      if k.required then .error .missingColon else .ok none
    else .ok (some k)

def refreshAll (l : Lexer) : Except YamlFault Lexer := do
  let candidate ← refresh l.cursor l.candidate
  let outer ← l.outer.mapM (refresh l.cursor)
  return { l with candidate := candidate, outer := outer }

def forget (l : Lexer) : Except YamlFault Lexer :=
  match l.candidate with
  | some k => if k.required then .error .missingColon else .ok { l with candidate := none }
  | none => .ok l

def remember (l : Lexer) : Except YamlFault Lexer :=
  if l.keyAllowed then do
    let l ← l.forget
    let c := l.cursor
    let required := !l.inFlow && l.indent == c.column
    return { l with candidate := some ⟨l.tokens.length, required, c.index, c.line, c.column⟩ }
  else .ok l

def closeBlocks (column : Int) : List Nat → Nat × List Nat
  | [] => (0, [])
  | n :: ns =>
    if column < n then
      let (k, ns) := closeBlocks column ns
      (k + 1, ns)
    else (0, n :: ns)

def fallBack (l : Lexer) (column : Int) : Lexer :=
  if l.inFlow then l
  else
    let (k, columns) := closeBlocks column l.columns
    { l with tokens := List.replicate k .closeBlock ++ l.tokens, columns := columns }

def deepen (l : Lexer) (column before : Nat) (t : Token) : Lexer :=
  if !l.inFlow && l.indent < column then
    { l.insert before t with columns := column :: l.columns }
  else l

def advance (l : Lexer) (n : Nat) : Lexer := { l with cursor := l.cursor.forward n }

def separator (l : Lexer) (t : Token) : Except YamlFault Lexer := do
  let l ← (l.fallBack (-1)).forget
  return ({ l with keyAllowed := false }.emit t).advance 3

def openFlow (l : Lexer) (t : Token) : Except YamlFault Lexer := do
  let l ← l.remember
  return ({ l with
    candidate := none
    outer := l.candidate :: l.outer
    keyAllowed := true }.emit t).advance 1

def closeFlow (l : Lexer) (t : Token) : Except YamlFault Lexer :=
  match l.outer with
  | [] => .error .unexpectedToken
  | k :: ks => .ok (({ l with candidate := k, outer := ks, keyAllowed := false }.emit t).advance 1)

def comma (l : Lexer) : Except YamlFault Lexer := do
  let l ← l.forget
  return ({ l with keyAllowed := true }.emit .comma).advance 1

def entry (l : Lexer) : Except YamlFault Lexer :=
  if !l.inFlow && !l.keyAllowed then .error .misplacedEntry
  else do
    let l ← (l.deepen l.cursor.column l.tokens.length .openEntries).forget
    return ({ l with keyAllowed := true }.emit .entry).advance 1

def markedKey (l : Lexer) : Except YamlFault Lexer :=
  if !l.inFlow && !l.keyAllowed then .error .misplacedKey
  else do
    let l ← (l.deepen l.cursor.column l.tokens.length .openKeys).forget
    return ({ l with keyAllowed := !l.inFlow }.emit .key).advance 1

def colon (l : Lexer) : Except YamlFault Lexer :=
  match l.candidate with
  | some k =>
    let l := (l.insert k.before .key).deepen k.column k.before .openKeys
    .ok (({ l with candidate := none, keyAllowed := false }.emit .value).advance 1)
  | none =>
    if !l.inFlow && !l.keyAllowed then .error .misplacedValue
    else
      let l := l.deepen l.cursor.column l.tokens.length .openKeys
      .ok (({ l with keyAllowed := !l.inFlow }.emit .value).advance 1)

def quoted (l : Lexer) (quote : Char) : Except YamlFault Lexer := do
  let l ← l.remember
  let body := l.cursor.rest.drop 1
  let (s, rest) ← readQuoted quote (body.length + 1) body
  return { l with
    cursor := l.cursor.upTo rest
    tokens := .scalar (String.ofList s) false :: l.tokens
    keyAllowed := false }

def plain (l : Lexer) : Except YamlFault Lexer := do
  let l ← l.remember
  let s := readPlain l.inFlow l.indent (l.cursor.rest.length + 1) [] false l.cursor
  return { l with
    cursor := s.after
    tokens := .scalar (String.ofList s.text) true :: l.tokens
    keyAllowed := s.broken }

def isIndicator (c : Char) : Bool :=
  "-?:,[]\x7b\x7d#&*!|>'\"%@`".toList.contains c

def beginsPlain (flow : Bool) (c : Char) (r : List Char) : Bool :=
  !(isGap c || isBreak c || isIndicator c) ||
    (!atGap r && (c = '-' || (!flow && (c = '?' || c = ':'))))

def step (l : Lexer) (c : Char) (r : List Char) : Except YamlFault Lexer :=
  let lineStart := l.cursor.column = 0
  if lineStart && atMark '-' (c :: r) then l.separator .documentStart
  else if lineStart && atMark '.' (c :: r) then l.separator .documentEnd
  else if c = '[' then l.openFlow .openList
  else if c = '\x7b' then l.openFlow .openMap
  else if c = ']' then l.closeFlow .closeList
  else if c = '\x7d' then l.closeFlow .closeMap
  else if c = ',' then l.comma
  else if c = '-' && atGap r then l.entry
  else if c = '?' && (l.inFlow || atGap r) then l.markedKey
  else if c = ':' && (l.inFlow || atGap r) then l.colon
  else if c = '\'' || c = '"' then l.quoted c
  else if beginsPlain l.inFlow c r then l.plain
  else .error .unexpectedCharacter

def run : Nat → Lexer → Except YamlFault (List Token)
  | 0, _ => .error .unexpectedCharacter
  | k + 1, l => do
    let l ← l.toNext.refreshAll
    let l := l.fallBack l.cursor.column
    match l.cursor.rest with
    | [] =>
      let l ← (l.fallBack (-1)).forget
      return l.tokens.reverse
    | c :: r => run k (← l.step c r)

end Lexer

def tokens (s : List Char) : Except YamlFault (List Token) := Lexer.run (s.length + 1) (.start s)

end ResolverSetup.Yaml
