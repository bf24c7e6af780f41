import ResolverSetup.Yaml.Token
import ResolverSetup.Yaml.Plain
import ResolverSetup.Value.Table
/-! A reader of a part of YAML: nodes from tokens, and their values. There are no anchors, tags,
block scalars, directives or dates; texts with any of these are read wrongly or refused. -/
namespace ResolverSetup.Yaml

inductive Node
  | scalar (text : String) (plain : Bool)
  | list (items : List Node)
  | map (entries : List (Node × Node))

def Node.empty : Node := .scalar "" true

abbrev WithRest (α : Type) := α × List Token

def leftOut (stops : List Token) : List Token → Bool
  | [] => true
  | t :: _ => stops.contains t

def afterEntry : List Token := [.entry, .closeBlock]

def afterKey : List Token := [.key, .value, .closeBlock]

def afterComma (first : Bool) : List Token → Except YamlFault (List Token)
  | .comma :: r => if first then .ok (.comma :: r) else .ok r
  | ts => if first then .ok ts else .error .unexpectedToken

mutual
/-- Reads a node. Block collections begin only where they may, and a list without a level of its
own only behind a key. The first argument bounds the depth of the recursion, here and below. -/
def readNode (block loose : Bool) : Nat → List Token → Except YamlFault (WithRest Node)
  | 0, _ => .error .unexpectedToken
  | k + 1, ts =>
    match ts with
    | .scalar s plain :: r => .ok (.scalar s plain, r)
    | .openList :: r => (readFlowItems true k r).map fun (xs, r) => (.list xs, r)
    | .openMap :: r => (readFlowEntries true k r).map fun (es, r) => (.map es, r)
    | .openEntries :: r =>
      if block then (readBlockItems k r).map fun (xs, r) => (.list xs, r)
      else .error .unexpectedToken
    | .openKeys :: r =>
      if block then (readBlockEntries k r).map fun (es, r) => (.map es, r)
      else .error .unexpectedToken
    | .entry :: _ =>
      if loose then (readLooseItems k ts).map fun (xs, r) => (.list xs, r)
      else .error .unexpectedToken
    | _ => .error .unexpectedToken

def readOptional (stops : List Token) (block loose : Bool) :
    Nat → List Token → Except YamlFault (WithRest Node)
  | 0, _ => .error .unexpectedToken
  | k + 1, ts => if leftOut stops ts then .ok (.empty, ts) else readNode block loose k ts

def readBlockItems : Nat → List Token → Except YamlFault (WithRest (List Node))
  | 0, _ => .error .unexpectedToken
  | k + 1, ts =>
    match ts with
    | .closeBlock :: r => .ok ([], r)
    | .entry :: r => do
      let (x, r) ← readOptional afterEntry true false k r
      let (xs, r) ← readBlockItems k r
      return (x :: xs, r)
    | _ => .error .unexpectedToken

def readLooseItems : Nat → List Token → Except YamlFault (WithRest (List Node))
  | 0, _ => .error .unexpectedToken
  | k + 1, ts =>
    match ts with
    | .entry :: r => do
      let (x, r) ← readOptional (.entry :: afterKey) true false k r
      let (xs, r) ← readLooseItems k r
      return (x :: xs, r)
    | _ => .ok ([], ts)

def readValue (stops : List Token) (block : Bool) :
    Nat → List Token → Except YamlFault (WithRest Node)
  | 0, _ => .error .unexpectedToken
  | k + 1, ts =>
    match ts with
    | .value :: r => readOptional stops block block k r
    | _ => .ok (.empty, ts)

def readBlockEntries : Nat → List Token → Except YamlFault (WithRest (List (Node × Node)))
  | 0, _ => .error .unexpectedToken
  | k + 1, ts =>
    match ts with
    | .closeBlock :: r => .ok ([], r)
    | .key :: r => do
      let (x, r) ← readOptional afterKey true true k r
      let (y, r) ← readValue afterKey true k r
      let (es, r) ← readBlockEntries k r
      return ((x, y) :: es, r)
    | _ => .error .unexpectedToken

def readFlowEntry (close : Token) :
    Nat → List Token → Except YamlFault (WithRest (Node × Node))
  | 0, _ => .error .unexpectedToken
  | k + 1, ts => do
    let (x, r) ← readOptional [.value, .comma, close] false false k ts
    let (y, r) ← readValue [.comma, close] false k r
    return ((x, y), r)

/-- Reads the items of a flow list up to its end; a key among them is a mapping of one entry. -/
def readFlowItems (first : Bool) : Nat → List Token → Except YamlFault (WithRest (List Node))
  | 0, _ => .error .unexpectedToken
  | k + 1, ts =>
    match ts with
    | .closeList :: r => .ok ([], r)
    | _ => do
      match ← afterComma first ts with
      | .closeList :: r => return ([], r)
      | .key :: r =>
        let (e, r) ← readFlowEntry .closeList k r
        let (xs, r) ← readFlowItems false k r
        return (.map [e] :: xs, r)
      | r =>
        let (x, r) ← readNode false false k r
        let (xs, r) ← readFlowItems false k r
        return (x :: xs, r)

def readFlowEntries (first : Bool) :
    Nat → List Token → Except YamlFault (WithRest (List (Node × Node)))
  | 0, _ => .error .unexpectedToken
  | k + 1, ts =>
    match ts with
    | .closeMap :: r => .ok ([], r)
    | _ => do
      match ← afterComma first ts with
      | .closeMap :: r => return ([], r)
      | .key :: r =>
        let (e, r) ← readFlowEntry .closeMap k r
        let (es, r) ← readFlowEntries false k r
        return (e :: es, r)
      | r =>
        let (x, r) ← readNode false false k r
        let (es, r) ← readFlowEntries false k r
        return ((x, .empty) :: es, r)
end

def document? (ts : List Token) : Except YamlFault (Option Node) := do
  let depth := 4 * ts.length + 4
  let (root, rest) ← match ts with
    | [] => .ok (none, [])
    | .documentStart :: r =>
      (readOptional [.documentStart, .documentEnd] true false depth r).map fun (x, r) => (some x, r)
    | ts => (readNode true false depth ts).map fun (x, r) => (some x, r)
  if (rest.dropWhile (· == .documentEnd)).isEmpty then return root
  else .error .severalDocuments

def isMergeKey : Node → Bool
  | .scalar s true => s == "<<"
  | _ => false

mutual
def broughtIn : Node → Except YamlFault (List (Node × Node))
  | .map es => (splitMerged es).map fun (merged, own) => merged ++ own
  | .list xs => broughtInByAll xs
  | .scalar _ _ => .error .unusableMerge

def broughtInByAll : List Node → Except YamlFault (List (Node × Node))
  | [] => .ok []
  | .map es :: xs => do
    let (merged, own) ← splitMerged es
    return (← broughtInByAll xs) ++ (merged ++ own)
  | _ :: _ => .error .unusableMerge

def splitMerged :
    List (Node × Node) → Except YamlFault (List (Node × Node) × List (Node × Node))
  | [] => .ok ([], [])
  | (x, y) :: es => do
    if isMergeKey x then
      let brought ← broughtIn y
      let (merged, own) ← splitMerged es
      return (brought ++ merged, own)
    else
      let (merged, own) ← splitMerged es
      return (merged, (x, y) :: own)
end

def allEntries (es : List (Node × Node)) : Except YamlFault (List (Node × Node)) :=
  (splitMerged es).map fun (merged, own) => merged ++ own

def scalarValue (s : String) (plain : Bool) : Except YamlFault Value :=
  if plain then plainValue s else .ok (.text s)

def keyValue : Node → Except YamlFault Value
  | .scalar s plain => scalarValue s (plain && s != "=")
  | _ => .error .unusableKey

def containers : List Node → Except YamlFault (List Node)
  | [] => .ok []
  | .scalar s plain :: xs => do
    let _ ← scalarValue s plain
    containers xs
  | x :: xs => (containers xs).map (x :: ·)

def Node.inside : Node → Except YamlFault (List Node)
  | .scalar s plain => (scalarValue s plain).map fun _ => []
  | .list xs => containers xs
  | .map es => do
    let inner ← (← allEntries es).mapM fun (x, y) => do
      let _ ← keyValue x
      containers [y]
    return inner.flatten

/-- Looks for a fault level by level, so that the one nearest to the root is found. The first
argument bounds the number of levels. -/
def checkLevels : Nat → List Node → Except YamlFault Unit
  | 0, _ => .ok ()
  | k + 1, level => do
    match (← level.mapM Node.inside).flatten with
    | [] => return ()
    | next => checkLevels k next

/-- The value of a node; of equal keys the last one counts. The first argument bounds the depth of
the node. -/
def Node.value : Nat → Node → Except YamlFault Value
  | 0, _ => .error .unexpectedToken
  | _ + 1, .scalar s plain => scalarValue s plain
  | k + 1, .list xs => (xs.mapM (Node.value k)).map (.list .writable)
  | k + 1, .map es => do
    let entries ← (← allEntries es).mapM fun (x, y) => do
      return (← keyValue x, ← y.value k)
    return .map .writable (Table.ofEntries entries)

def isAllowed (c : Char) : Bool :=
  let n := c.toNat
  c == '\t' || c == '\n' || c == '\r' || (0x20 ≤ n && n ≤ 0x7E) || n == 0x85 ||
    (0xA0 ≤ n && n ≤ 0xD7FF) || (0xE000 ≤ n && n ≤ 0xFFFD) || 0x10000 ≤ n

def read (s : List Char) : Except YamlFault Value := do
  if s.all isAllowed then
    let ts ← tokens s
    match ← document? ts with
    | some node => do
      checkLevels (ts.length + 1) [node]
      node.value (ts.length + 1)
    | none => return .null
  else .error .unprintable

end ResolverSetup.Yaml
