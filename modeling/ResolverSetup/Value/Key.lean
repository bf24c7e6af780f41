import ResolverSetup.Value
/-! When two values are the same key of a mapping. -/
namespace ResolverSetup.Value

mutual
/-- The form in which keys are compared: a truth value is a whole number, and a floating-point
number without a fraction too. -/
def keyForm : Value → Value
  | .bool b => .int (if b then 1 else 0)
  | .real x => match x.toInt? with
    | some n => .int n
    | none => .real x
  | .moment m => .moment m.universal
  | .list a xs => .list a (itemKeyForms xs)
  | .set _ xs => .set .readOnly (itemKeyForms xs)
  | v => v

def itemKeyForms : List Value → List Value
  | [] => []
  | x :: xs => keyForm x :: itemKeyForms xs
end

def sameKey (v w : Value) : Bool := v.keyForm == w.keyForm

@[simp] theorem sameKey_refl (v : Value) : sameKey v v = true := by simp [sameKey]

theorem sameKey_comm (v w : Value) : sameKey v w = sameKey w v := by
  simp [sameKey, Bool.beq_comm]

theorem sameKey_trans {u v w : Value} (h : sameKey u v = true) (g : sameKey v w = true) :
    sameKey u w = true := by
  simp_all [sameKey]

@[simp] theorem sameKey_text (s t : String) : sameKey (.text s) (.text t) = (s == t) := by
  rw [Bool.eq_iff_iff]; simp [sameKey, keyForm]

theorem sameKey_text_iff (v : Value) (s : String) : sameKey v (.text s) = true ↔ v = .text s := by
  cases v with
  | real x => cases h : x.toInt? <;> simp [sameKey, keyForm, h]
  | _ => simp [sameKey, keyForm]

def isKey : Value → Bool
  | .list .writable _ | .map _ _ | .set .writable _ => false
  | _ => true

end ResolverSetup.Value
