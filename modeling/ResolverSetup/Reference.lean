import ResolverSetup.Value
import ResolverSetup.Environment
import ResolverSetup.Log
/-! References to environment variables in the texts of a document. -/
namespace ResolverSetup

structure Reference where
  name : String
  default : Option String
  written : String
deriving DecidableEq

inductive TextPart
  | literal (c : Char)
  | reference (r : Reference)
deriving DecidableEq

namespace Reference

def startsName (c : Char) : Bool := c.isAlpha || c == '_'

def isNameChar (c : Char) : Bool := c.isAlphanum || c == '_'

def spanName : List Char → List Char × List Char
  | [] => ([], [])
  | c :: s =>
    if startsName c then (c :: s.takeWhile isNameChar, s.dropWhile isNameChar) else ([], c :: s)

def braced? (s : List Char) : Option (Reference × List Char) :=
  let (name, rest) := spanName s
  if name.isEmpty then none
  else match rest with
    | '\x7d' :: r =>
      some (⟨String.ofList name, none, String.ofList ('$' :: '\x7b' :: name ++ ['\x7d'])⟩, r)
    | ':' :: '-' :: r =>
      let text := r.takeWhile (· != '\x7d')
      match r.dropWhile (· != '\x7d') with
      | _ :: r' =>
        some (⟨String.ofList name, some (String.ofList text),
          String.ofList ('$' :: '\x7b' :: name ++ ':' :: '-' :: text ++ ['\x7d'])⟩, r')
      | [] => none
    | _ => none

def after? (s : List Char) : Option (Reference × List Char) :=
  match s with
  | '\x7b' :: r => braced? r
  | _ =>
    let (name, rest) := spanName s
    if name.isEmpty then none
    else some (⟨String.ofList name, none, String.ofList ('$' :: name)⟩, rest)

theorem length_spanName (s : List Char) : (spanName s).2.length ≤ s.length := by
  cases s with
  | nil => simp [spanName]
  | cons c s =>
    by_cases h : startsName c = true
    · have := (List.dropWhile_sublist (l := s) isNameChar).length_le
      simp only [spanName, h, if_true, List.length_cons]
      omega
    · simp [spanName, h]

theorem length_braced? {s rest : List Char} {r : Reference} (h : braced? s = some (r, rest)) :
    rest.length ≤ s.length := by
  have hs := length_spanName s
  unfold braced? at h
  generalize spanName s = p at h hs
  obtain ⟨name, tail⟩ := p
  dsimp only at h hs
  split at h
  · cases h
  · split at h
    · simp only [Option.some.injEq, Prod.mk.injEq] at h
      rw [← h.2]
      simp only [List.length_cons] at hs
      omega
    · rename_i t
      have ht := (List.dropWhile_sublist (l := t) (· != '\x7d')).length_le
      split at h
      · rename_i heq
        simp only [Option.some.injEq, Prod.mk.injEq] at h
        rw [heq] at ht
        rw [← h.2]
        simp only [List.length_cons] at hs ht
        omega
      · cases h
    · cases h

theorem length_after? {s rest : List Char} {r : Reference} (h : after? s = some (r, rest)) :
    rest.length ≤ s.length := by
  unfold after? at h
  split at h
  · have := length_braced? h
    simp only [List.length_cons]
    omega
  · have hs := length_spanName s
    generalize spanName s = p at h hs
    obtain ⟨name, tail⟩ := p
    dsimp only at h hs
    split at h
    · cases h
    · simp only [Option.some.injEq, Prod.mk.injEq] at h
      rw [← h.2]
      exact hs

end Reference

/-- The parts of a text, read once from left to right. A dollar sign that begins no reference is a
literal. -/
def textParts : List Char → List TextPart
  | [] => []
  | c :: s =>
    if c = '$' then
      match _h : Reference.after? s with
      | some (r, rest) => .reference r :: textParts rest
      | none => .literal c :: textParts s
    else .literal c :: textParts s
termination_by s => s.length
decreasing_by
  all_goals simp only [List.length_cons]
  · have := Reference.length_after? _h
    omega
  · omega
  · omega

namespace Reference

def resolve (env : Environment) (r : Reference) : String :=
  match env.get? r.name with
  | some v => v
  | none => r.default.getD r.written

def isMissing (env : Environment) (r : Reference) : Bool :=
  (env.get? r.name).isNone && r.default.isNone

def missingEntry (r : Reference) : LogEntry :=
  .debug .documents ("Environment variable " ++ r.name ++ " is not set")

end Reference

namespace TextPart

def expand (env : Environment) : TextPart → List Char
  | literal c => [c]
  | reference r => (r.resolve env).toList

def missing (env : Environment) : TextPart → List LogEntry
  | literal _ => []
  | reference r => if r.isMissing env then [r.missingEntry] else []

end TextPart

def expandText (env : Environment) (s : String) : String :=
  String.ofList ((textParts s.toList).flatMap (·.expand env))

theorem textParts_of_plain {s : List Char} (h : '$' ∉ s) : textParts s = s.map .literal := by
  induction s with
  | nil => rw [textParts, List.map_nil]
  | cons c s ih =>
    have hc : c ≠ '$' := fun hc => h (hc ▸ List.mem_cons_self)
    rw [textParts, if_neg hc, ih fun hs => h (List.mem_cons_of_mem c hs), List.map_cons]

/-- A text without dollar signs has no references. -/
theorem expandText_of_plain (env : Environment) {s : String} (h : '$' ∉ s.toList) :
    expandText env s = s := by
  rw [expandText, textParts_of_plain h, List.flatMap_map]
  simp [TextPart.expand]

def missingIn (env : Environment) (s : String) : List LogEntry :=
  (textParts s.toList).flatMap (·.missing env)

namespace Value

mutual
/-- A document with the texts in its mappings and lists expanded. Keys stay as they are, and so
does all that stands in sets or in containers that may not be changed. -/
def expanded (env : Environment) : Value → Value
  | .text s => .text (expandText env s)
  | .list .writable xs => .list .writable (itemsExpanded env xs)
  | .map .writable es => .map .writable (entriesExpanded env es)
  | v => v

def itemsExpanded (env : Environment) : List Value → List Value
  | [] => []
  | x :: xs => expanded env x :: itemsExpanded env xs

def entriesExpanded (env : Environment) : List (Value × Value) → List (Value × Value)
  | [] => []
  | (k, v) :: es => (k, expanded env v) :: entriesExpanded env es
end

mutual
def missingEntries (env : Environment) : Value → List LogEntry
  | .text s => missingIn env s
  | .list .writable xs => itemsMissing env xs
  | .map .writable es => entriesMissing env es
  | _ => []

def itemsMissing (env : Environment) : List Value → List LogEntry
  | [] => []
  | x :: xs => missingEntries env x ++ itemsMissing env xs

def entriesMissing (env : Environment) : List (Value × Value) → List LogEntry
  | [] => []
  | (_, v) :: es => missingEntries env v ++ entriesMissing env es
end

end Value
end ResolverSetup
