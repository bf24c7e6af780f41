import ResolverSetup.Value.Key
/-! Tables: the entries of a mapping, in the order in which their keys were first given. -/
namespace ResolverSetup

abbrev Table := List (Value × Value)

namespace Table

def get? : Table → Value → Option Value
  | [], _ => none
  | (l, v) :: t, k => if l.sameKey k then some v else get? t k

def field (t : Table) (name : String) : Value := (t.get? (.text name)).getD .null

def put : Table → Value → Value → Table
  | [], k, v => [(k, v)]
  | (l, w) :: t, k, v => if l.sameKey k then (l, v) :: t else (l, w) :: put t k v

def putAll (t u : Table) : Table := u.foldl (fun t e => t.put e.1 e.2) t

/-- A table with each key once: a later value replaces an earlier one. -/
def ofEntries (es : List (Value × Value)) : Table := putAll [] es

theorem get?_put (t : Table) (k v l : Value) :
    (t.put k v).get? l = if k.sameKey l then some v else t.get? l := by
  induction t with
  | nil => rfl
  | cons e t ih =>
    obtain ⟨m, w⟩ := e
    by_cases h : m.sameKey k = true
    · have hl : m.sameKey l = k.sameKey l := by
        by_cases g : k.sameKey l = true
        · rw [g]; exact Value.sameKey_trans h g
        · by_cases g' : m.sameKey l = true
          · exact absurd (Value.sameKey_trans (Value.sameKey_comm m k ▸ h) g') g
          · simp_all
      simp only [put, h, ite_true, get?, hl]
      split <;> simp_all
    · by_cases g : m.sameKey l = true
      · have hk : k.sameKey l = false := by
          by_cases g' : k.sameKey l = true
          · exact absurd (Value.sameKey_trans g (Value.sameKey_comm k l ▸ g')) h
          · simpa using g'
        simp [put, get?, h, g, hk]
      · simp [put, get?, h, g, ih]

theorem putAll_cons (t u : Table) (k v : Value) :
    t.putAll ((k, v) :: u) = (t.put k v).putAll u := rfl

def Distinct (t : Table) : Prop := t.Pairwise fun e f => e.1.sameKey f.1 = false

instance : DecidablePred Distinct := fun t =>
  inferInstanceAs (Decidable (t.Pairwise fun e f => e.1.sameKey f.1 = false))

theorem get?_eq_none {t : Table} {k : Value} (h : ∀ e ∈ t, e.1.sameKey k = false) :
    t.get? k = none := by
  induction t with
  | nil => rfl
  | cons e t ih =>
    have he : e.1.sameKey k = false := h e List.mem_cons_self
    have ht := ih fun f hf => h f (List.mem_cons_of_mem e hf)
    simp [get?, he, ht]

/-- A table put into another covers it. -/
theorem get?_putAll {u : Table} (hu : u.Distinct) (t : Table) (k : Value) :
    (t.putAll u).get? k = (u.get? k).or (t.get? k) := by
  induction u generalizing t with
  | nil => rfl
  | cons e u ih =>
    obtain ⟨l, w⟩ := e
    have hl := (List.pairwise_cons.mp hu).1
    rw [putAll_cons, ih (List.pairwise_cons.mp hu).2, get?_put, get?]
    by_cases hk : l.sameKey k = true
    · have hnone : get? u k = none := by
        refine get?_eq_none fun f hf => ?_
        cases hfk : f.1.sameKey k with
        | false => rfl
        | true =>
          have hlf := Value.sameKey_trans hk (Value.sameKey_comm f.1 k ▸ hfk)
          exact absurd hlf (by simp [hl f hf])
      simp [hk, hnone]
    · simp [hk]

/-- What is found after entries were put into a table is one of theirs, or was there before. -/
theorem mem_of_get?_putAll {t u : Table} {k v : Value} (h : (t.putAll u).get? k = some v) :
    (∃ e ∈ u, e.1.sameKey k = true ∧ e.2 = v) ∨ t.get? k = some v := by
  induction u generalizing t with
  | nil => exact .inr h
  | cons e u ih =>
    obtain ⟨l, w⟩ := e
    rcases ih h with ⟨f, hf, hfk, hfv⟩ | ht
    · exact .inl ⟨f, List.mem_cons_of_mem _ hf, hfk, hfv⟩
    · rw [get?_put] at ht
      by_cases hk : l.sameKey k = true
      · rw [if_pos hk] at ht
        exact .inl ⟨(l, w), List.mem_cons_self, hk, Option.some.inj ht⟩
      · rw [if_neg hk] at ht
        exact .inr ht

theorem fst_mem_of_mem_put {t : Table} {k v : Value} {e : Value × Value} (h : e ∈ t.put k v) :
    e.1 = k ∨ ∃ f ∈ t, f.1 = e.1 := by
  induction t with
  | nil =>
    have he : e = (k, v) := by simpa [put] using h
    exact .inl (by rw [he])
  | cons f t ih =>
    obtain ⟨l, w⟩ := f
    by_cases hk : l.sameKey k = true
    · rw [put, if_pos hk] at h
      rcases List.mem_cons.mp h with rfl | ht
      · exact .inr ⟨(l, w), List.mem_cons_self, rfl⟩
      · exact .inr ⟨e, List.mem_cons_of_mem _ ht, rfl⟩
    · rw [put, if_neg hk] at h
      rcases List.mem_cons.mp h with rfl | ht
      · exact .inr ⟨(l, w), List.mem_cons_self, rfl⟩
      · rcases ih ht with he | ⟨g, hg, hge⟩
        · exact .inl he
        · exact .inr ⟨g, List.mem_cons_of_mem _ hg, hge⟩

theorem fst_mem_of_mem_putAll {t u : Table} {e : Value × Value} (h : e ∈ t.putAll u) :
    (∃ f ∈ t, f.1 = e.1) ∨ ∃ f ∈ u, f.1 = e.1 := by
  induction u generalizing t with
  | nil => exact .inl ⟨e, h, rfl⟩
  | cons g u ih =>
    cases ih h with
    | inr hu =>
      obtain ⟨f, hf, hfe⟩ := hu
      exact .inr ⟨f, List.mem_cons_of_mem g hf, hfe⟩
    | inl ht =>
      obtain ⟨f, hf, hfe⟩ := ht
      cases fst_mem_of_mem_put hf with
      | inl hfg => exact .inr ⟨g, List.mem_cons_self, hfg.symm.trans hfe⟩
      | inr hft =>
        obtain ⟨d, hd, hdf⟩ := hft
        exact .inl ⟨d, hd, hdf.trans hfe⟩

theorem isSome_get?_iff (t : Table) (k : Value) :
    (t.get? k).isSome ↔ ∃ e ∈ t, e.1.sameKey k = true := by
  induction t with
  | nil => simp [get?]
  | cons e t ih =>
    obtain ⟨l, w⟩ := e
    by_cases h : l.sameKey k = true
    · simp [get?, h]
    · simp [get?, h, ih]

/-- A text is the same key as no other value. -/
theorem text_mem_keys_iff (t : Table) (s : String) :
    .text s ∈ t.map (·.1) ↔ (t.get? (.text s)).isSome := by
  rw [isSome_get?_iff]
  simp [Value.sameKey_text_iff]

theorem Distinct.put {t : Table} (ht : t.Distinct) (k v : Value) : (t.put k v).Distinct := by
  induction t with
  | nil => exact List.pairwise_singleton _ _
  | cons e t ih =>
    obtain ⟨l, w⟩ := e
    obtain ⟨hl, htail⟩ := List.pairwise_cons.mp ht
    by_cases hk : l.sameKey k = true
    · rw [Table.put, if_pos hk]
      exact List.pairwise_cons.mpr ⟨hl, htail⟩
    · rw [Table.put, if_neg hk]
      refine List.pairwise_cons.mpr ⟨fun f hf => ?_, ih htail⟩
      rcases fst_mem_of_mem_put hf with hfk | ⟨g, hg, hgf⟩
      · simpa [hfk] using hk
      · rw [← hgf]
        exact hl g hg

theorem Distinct.putAll {t : Table} (ht : t.Distinct) (u : Table) : (t.putAll u).Distinct := by
  induction u generalizing t with
  | nil => exact ht
  | cons e u ih => exact ih (ht.put e.1 e.2)

theorem distinct_ofEntries (es : List (Value × Value)) : (ofEntries es).Distinct :=
  Distinct.putAll List.Pairwise.nil es

end Table
end ResolverSetup
