import ResolverSetup.Value
import ResolverSetup.Number.Reader
import ResolverSetup.Number.Shortest
import ResolverSetup.Text.Quoted
/-! The text of a value: as it stands in a message, and as a literal inside a container. -/
namespace ResolverSetup

def boolText (b : Bool) : String := if b then "True" else "False"

namespace Value

mutual
/-- A value as a literal: texts are quoted, a list of one entry that may not be changed keeps a
comma, and a read-only mapping or set is marked by a word. -/
def literal : Value → String
  | .null => "None"
  | .bool b => boolText b
  | .int n => toString n
  | .real x => x.text
  | .text s => Text.quoted s
  | .bytes bs => Text.bytesLiteral bs
  | .moment m => m.literal
  | .list .writable xs => "[" ++ ", ".intercalate (itemLiterals xs) ++ "]"
  | .list .readOnly [] => "()"
  | .list .readOnly (x :: []) => "(" ++ literal x ++ ",)"
  | .list .readOnly (x :: xs) =>
    "(" ++ ", ".intercalate (literal x :: itemLiterals xs) ++ ")"
  | .map .writable es => "\x7b" ++ ", ".intercalate (entryLiterals es) ++ "\x7d"
  | .map .readOnly es => "mappingproxy(\x7b" ++ ", ".intercalate (entryLiterals es) ++ "\x7d)"
  | .set .writable [] => "set()"
  | .set .writable (x :: xs) =>
    "\x7b" ++ ", ".intercalate (literal x :: itemLiterals xs) ++ "\x7d"
  | .set .readOnly [] => "frozenset()"
  | .set .readOnly (x :: xs) =>
    "frozenset(\x7b" ++ ", ".intercalate (literal x :: itemLiterals xs) ++ "\x7d)"

def itemLiterals : List Value → List String
  | [] => []
  | x :: xs => literal x :: itemLiterals xs

def entryLiterals : List (Value × Value) → List String
  | [] => []
  | (k, v) :: es => (literal k ++ ": " ++ literal v) :: entryLiterals es
end

def display : Value → String
  | .text s => s
  | .moment m => m.text
  | v => v.literal

mutual
def isWritable : Value → Bool
  | .int n => ResolverSetup.isWritable n
  | .list _ xs => itemsWritable xs
  | .map _ es => entriesWritable es
  | .set _ xs => itemsWritable xs
  | _ => true

def itemsWritable : List Value → Bool
  | [] => true
  | x :: xs => isWritable x && itemsWritable xs

def entriesWritable : List (Value × Value) → Bool
  | [] => true
  | (k, v) :: es => isWritable k && isWritable v && entriesWritable es
end

def written (v : Value) : Except DigitFault String :=
  if v.isWritable then .ok v.display else .error .unwritable

def spelled (v : Value) : Except DigitFault String :=
  if v.isWritable then .ok v.literal else .error .unwritable

theorem exists_written_iff (v : Value) : (∃ s, v.written = .ok s) ↔ v.isWritable = true := by
  rw [Value.written]
  split <;> simp [*]

theorem written_eq_error_iff (v : Value) (f : DigitFault) :
    v.written = .error f ↔ v.isWritable = false ∧ f = .unwritable := by
  rw [Value.written]
  split <;> simp [*, eq_comm]

def kindName : Value → String
  | .null => "NoneType"
  | .bool _ => "bool"
  | .int _ => "int"
  | .real _ => "float"
  | .text _ => "str"
  | .bytes _ => "bytes"
  | .moment m => m.kindName
  | .list .writable _ => "list"
  | .list .readOnly _ => "tuple"
  | .map .writable _ => "dict"
  | .map .readOnly _ => "mappingproxy"
  | .set .writable _ => "set"
  | .set .readOnly _ => "frozenset"

end Value

/-! The text of a record: its kind and those of its fields that may be shown. -/

def recordText (kind : String) (fields : List (String × String)) : String :=
  kind ++ "(" ++ ", ".intercalate (fields.map fun f => f.1 ++ "=" ++ f.2) ++ ")"

def textLiteral : Option String → String
  | none => Value.null.literal
  | some s => Text.quoted s

end ResolverSetup
