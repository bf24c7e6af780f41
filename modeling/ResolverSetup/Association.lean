/-! Keys with values, each key once, in the order in which the keys were first given. -/
namespace ResolverSetup

abbrev Association (κ ν : Type) := List (κ × ν)

section
variable {α β : Type}

/-- The last element with a property: where later ones replace earlier ones, the one that counts. -/
def lastOf? (p : α → Bool) (xs : List α) : Option α := xs.reverse.find? p

theorem lastOf?_concat (p : α → Bool) (xs : List α) (x : α) :
    lastOf? p (xs ++ [x]) = if p x then some x else lastOf? p xs := by
  rw [lastOf?, List.reverse_append, List.reverse_singleton, List.singleton_append, List.find?_cons]
  cases p x <;> rfl

theorem lastOf?_map (p : β → Bool) (f : α → β) (xs : List α) :
    lastOf? p (xs.map f) = (lastOf? (p ∘ f) xs).map f := by
  rw [lastOf?, ← List.map_reverse, List.find?_map]
  rfl

/-- What has not the property may stand behind. -/
theorem lastOf?_append_of_not {p : α → Bool} {ys : List α} (h : ∀ y ∈ ys, p y = false)
    (xs : List α) : lastOf? p (xs ++ ys) = lastOf? p xs := by
  have hnone : ys.reverse.find? p = none := by
    rw [List.find?_eq_none]
    intro y hy
    simp [h y (List.mem_reverse.mp hy)]
  rw [lastOf?, List.reverse_append, List.find?_append, hnone, Option.none_or]
  rfl

theorem lastOf?_isSome_iff (p : α → Bool) (xs : List α) :
    (lastOf? p xs).isSome ↔ ∃ x ∈ xs, p x = true := by
  rw [lastOf?, List.find?_isSome]
  simp

theorem lastOf?_without {p : α → Bool} {x : α} (h : p x = false) (front back : List α) :
    lastOf? p (front ++ x :: back) = lastOf? p (front ++ back) := by
  simp [lastOf?, List.find?_append, h]

end

namespace Association

variable {κ ν : Type} [DecidableEq κ]

def get? : Association κ ν → κ → Option ν
  | [], _ => none
  | (l, v) :: a, k => if l = k then some v else get? a k

def put : Association κ ν → κ → ν → Association κ ν
  | [], k, v => [(k, v)]
  | (l, w) :: a, k, v => if l = k then (k, v) :: a else (l, w) :: put a k v

def erase (a : Association κ ν) (k : κ) : Association κ ν := a.filter fun e => decide (e.1 ≠ k)

def keys (a : Association κ ν) : List κ := a.map (·.1)

theorem get?_put (a : Association κ ν) (k l : κ) (v : ν) :
    (a.put k v).get? l = if k = l then some v else a.get? l := by
  induction a with
  | nil => rfl
  | cons e a ih =>
    obtain ⟨m, w⟩ := e
    by_cases h : m = k
    · subst h
      by_cases g : m = l <;> simp [put, get?, g]
    · by_cases g : m = l
      · subst g
        simp [put, get?, h, Ne.symm h]
      · simp [put, get?, h, g, ih]

theorem get?_erase (a : Association κ ν) (k l : κ) :
    (a.erase k).get? l = if k = l then none else a.get? l := by
  induction a with
  | nil => simp [erase, get?]
  | cons e a ih =>
    obtain ⟨m, w⟩ := e
    simp only [erase] at ih
    by_cases h : m = k
    · subst h
      by_cases g : m = l
      · simpa [erase, get?, g] using ih
      · simpa [erase, get?, g] using ih
    · by_cases g : m = l
      · subst g
        simp [erase, get?, h, Ne.symm h]
      · simpa [erase, get?, h, g] using ih

theorem get?_eq_none_iff (a : Association κ ν) (k : κ) : a.get? k = none ↔ k ∉ a.keys := by
  induction a with
  | nil => simp [get?, keys]
  | cons e a ih =>
    obtain ⟨m, w⟩ := e
    simp only [keys] at ih
    by_cases h : m = k
    · simp [get?, keys, h]
    · simp [get?, keys, h, ih, Ne.symm h]

theorem mem_of_get? {a : Association κ ν} {k : κ} {v : ν}
    (h : a.get? k = some v) : (k, v) ∈ a := by
  induction a with
  | nil => cases h
  | cons e a ih =>
    obtain ⟨l, w⟩ := e
    rw [get?] at h
    split at h
    next hl =>
      cases h
      exact hl ▸ List.mem_cons_self
    next => exact List.mem_cons_of_mem _ (ih h)

theorem get?_eq_some_iff {a : Association κ ν} (h : a.keys.Nodup) (k : κ) (v : ν) :
    a.get? k = some v ↔ (k, v) ∈ a := by
  constructor
  · exact mem_of_get?
  · intro hmem
    induction a with
    | nil => cases hmem
    | cons e a ih =>
      obtain ⟨l, w⟩ := e
      have hkeys := List.nodup_cons.mp h
      cases List.mem_cons.mp hmem with
      | inl he =>
        cases he
        simp [get?]
      | inr ha =>
        have hkey : k ∈ keys a := List.mem_map_of_mem ha
        have hne : l ≠ k := fun hl => hkeys.1 (hl ▸ hkey)
        rw [get?, if_neg hne, ih hkeys.2 ha]

theorem keys_put (a : Association κ ν) (k : κ) (v : ν) :
    (a.put k v).keys = if k ∈ a.keys then a.keys else a.keys ++ [k] := by
  induction a with
  | nil => simp [put, keys]
  | cons e a ih =>
    obtain ⟨l, w⟩ := e
    simp only [keys] at ih
    by_cases h : l = k
    · simp [put, keys, h]
    · by_cases hk : k ∈ a.map (·.1)
      · simp [put, keys, h, ih, hk]
      · simp [put, keys, h, Ne.symm h, ih, hk]

theorem keys_erase (a : Association κ ν) (k : κ) :
    (a.erase k).keys = a.keys.filter fun l => decide (l ≠ k) := by
  rw [keys, erase, keys, List.filter_map]
  rfl

end Association
end ResolverSetup
