import ResolverSetup.Proofs.ReferenceGrammar
/-! What the expansion of a document touches: the texts that mappings and lists lead to, and nothing
else; and which variables it depends on. -/
namespace ResolverSetup.Value

def child? : Value → Nat → Option Value
  | .list .writable xs, i => xs[i]?
  | .map .writable es, i => es[i]?.map (·.2)
  | _, _ => none

def atPath (v : Value) : List Nat → Option Value
  | [] => some v
  | i :: path => (v.child? i).bind (·.atPath path)

/-- Scalars that are no texts, sets, and containers that may not be changed. -/
inductive IsKept : Value → Prop
  | null : IsKept .null
  | bool (b : Bool) : IsKept (.bool b)
  | int (n : Int) : IsKept (.int n)
  | real (x : Binary64) : IsKept (.real x)
  | bytes (bs : List UInt8) : IsKept (.bytes bs)
  | moment (m : Moment) : IsKept (.moment m)
  | set (a : Access) (xs : List Value) : IsKept (.set a xs)
  | tuple (xs : List Value) : IsKept (.list .readOnly xs)
  | frozen (es : List (Value × Value)) : IsKept (.map .readOnly es)

inductive ExpandsTo (env : Environment) : Value → Value → Prop
  | text (s : String) : ExpandsTo env (.text s) (.text (expandText env s))
  | list {xs ys : List Value} (h : ys.length = xs.length) :
      ExpandsTo env (.list .writable xs) (.list .writable ys)
  | map {es fs : List (Value × Value)} (h : fs.map (·.1) = es.map (·.1)) :
      ExpandsTo env (.map .writable es) (.map .writable fs)
  | kept {v : Value} (h : v.IsKept) : ExpandsTo env v v

theorem itemsExpanded_eq_map (env : Environment) (xs : List Value) :
    itemsExpanded env xs = xs.map (expanded env) := by
  induction xs with
  | nil => rfl
  | cons x xs ih => rw [itemsExpanded, ih, List.map_cons]

theorem entriesExpanded_eq_map (env : Environment) (es : List (Value × Value)) :
    entriesExpanded env es = es.map fun e => (e.1, e.2.expanded env) := by
  induction es with
  | nil => rfl
  | cons e es ih =>
    obtain ⟨k, v⟩ := e
    rw [entriesExpanded, ih, List.map_cons]

theorem IsKept.expanded_eq {v : Value} (h : v.IsKept) (env : Environment) : v.expanded env = v := by
  cases h <;> rfl

theorem IsKept.child?_eq {v : Value} (h : v.IsKept) (i : Nat) : v.child? i = none := by
  cases h <;> rfl

theorem isKept_or (v : Value) : v.IsKept ∨ (∃ s, v = .text s) ∨ (∃ xs, v = .list .writable xs) ∨
    ∃ es, v = .map .writable es := by
  cases v with
  | null => exact .inl .null
  | bool b => exact .inl (.bool b)
  | int n => exact .inl (.int n)
  | real x => exact .inl (.real x)
  | bytes bs => exact .inl (.bytes bs)
  | moment m => exact .inl (.moment m)
  | text s => exact .inr (.inl ⟨s, rfl⟩)
  | list a xs =>
    cases a with
    | writable => exact .inr (.inr (.inl ⟨xs, rfl⟩))
    | readOnly => exact .inl (.tuple xs)
  | map a es =>
    cases a with
    | writable => exact .inr (.inr (.inr ⟨es, rfl⟩))
    | readOnly => exact .inl (.frozen es)
  | set a xs => exact .inl (.set a xs)

theorem expandsTo_expanded {env₁ env₂ : Environment} {v : Value}
    (h : ∀ s, v = .text s → expandText env₂ s = expandText env₁ s) :
    ExpandsTo env₁ v (v.expanded env₂) := by
  rcases isKept_or v with hk | ⟨s, rfl⟩ | ⟨xs, rfl⟩ | ⟨es, rfl⟩
  · rw [hk.expanded_eq]
    exact .kept hk
  · rw [expanded, h s rfl]
    exact .text s
  · rw [expanded, itemsExpanded_eq_map]
    exact .list (List.length_map _)
  · rw [expanded, entriesExpanded_eq_map]
    exact .map (by simp)

theorem expandsTo_self {env : Environment} {v : Value}
    (h : ∀ s, v = .text s → expandText env s = s) : ExpandsTo env v v := by
  rcases isKept_or v with hk | ⟨s, rfl⟩ | ⟨xs, rfl⟩ | ⟨es, rfl⟩
  · exact .kept hk
  · have hto : ExpandsTo env (.text s) (.text (expandText env s)) := .text s
    rwa [h s rfl] at hto
  · exact .list rfl
  · exact .map rfl

theorem child?_expanded (env : Environment) (v : Value) (i : Nat) :
    (v.expanded env).child? i = (v.child? i).map (expanded env) := by
  rcases isKept_or v with h | ⟨s, rfl⟩ | ⟨xs, rfl⟩ | ⟨es, rfl⟩
  · rw [h.expanded_eq, h.child?_eq, Option.map_none]
  · rfl
  · rw [expanded, itemsExpanded_eq_map, child?, child?, List.getElem?_map]
  · rw [expanded, entriesExpanded_eq_map, child?, child?, List.getElem?_map, Option.map_map,
      Option.map_map]
    rfl

theorem atPath_singleton (v : Value) (i : Nat) : v.atPath [i] = v.child? i := by
  rw [atPath]
  cases v.child? i <;> rfl

theorem atPath_expanded (env : Environment) (v : Value) (path : List Nat) :
    (v.expanded env).atPath path = (v.atPath path).map (expanded env) := by
  induction path generalizing v with
  | nil => rfl
  | cons i path ih =>
    rw [atPath, atPath, child?_expanded]
    cases v.child? i with
    | none => rfl
    | some w => exact ih w

theorem sizeOf_child? {v w : Value} {i : Nat} (h : v.child? i = some w) : sizeOf w < sizeOf v := by
  rcases isKept_or v with hk | ⟨s, rfl⟩ | ⟨xs, rfl⟩ | ⟨es, rfl⟩
  · rw [hk.child?_eq] at h
    cases h
  · cases h
  · have hw := List.sizeOf_lt_of_mem (List.mem_of_getElem? h)
    simp only [list.sizeOf_spec]
    omega
  · obtain ⟨⟨k, _⟩, he, rfl⟩ := Option.map_eq_some_iff.mp h
    have hw := List.sizeOf_lt_of_mem (List.mem_of_getElem? he)
    simp only [Prod.mk.sizeOf_spec] at hw
    simp only [map.sizeOf_spec]
    omega

/-- What carries over from the items and entries of a value to the value holds of all documents. -/
theorem child_induction {P : Value → Prop}
    (step : ∀ v, (∀ i w, v.child? i = some w → P w) → P v) (v : Value) : P v :=
  step v fun _ w _ => child_induction step w
termination_by sizeOf v
decreasing_by exact sizeOf_child? ‹_›

theorem expanded_eq_of_atPath (env : Environment) (v w : Value)
    (h : ∀ path x, v.atPath path = some x → ∃ y, w.atPath path = some y ∧ ExpandsTo env x y) :
    v.expanded env = w := by
  induction v using child_induction generalizing w with
  | step v ih =>
    have hchild : ∀ i x, v.child? i = some x → w.child? i = some (x.expanded env) := by
      intro i x hx
      obtain ⟨y, hy, _⟩ := h [i] x (by rw [atPath_singleton, hx])
      have hwi : w.child? i = some y := by rwa [atPath_singleton] at hy
      rw [hwi, ih i x hx y fun path z hz => ?_]
      obtain ⟨u, hu, hzu⟩ := h (i :: path) z (by rw [atPath, hx]; exact hz)
      refine ⟨u, ?_, hzu⟩
      rw [atPath, hwi] at hu
      exact hu
    -- the empty path says what kind of value w is
    obtain ⟨_, hroot, hto⟩ := h [] v rfl
    obtain rfl := Option.some.inj hroot
    cases hto with
    | text s => rfl
    | kept hk => exact hk.expanded_eq env
    | @list xs ys hlength =>
      rw [expanded, itemsExpanded_eq_map]
      congr 1
      refine List.ext_getElem? fun i => ?_
      rw [List.getElem?_map]
      cases hx : xs[i]? with
      | none => exact (List.getElem?_eq_none (hlength ▸ List.getElem?_eq_none_iff.mp hx)).symm
      | some x => exact (hchild i x hx).symm
    | @map es fs hkeys =>
      -- the values are known from the paths, the keys from the root
      rw [expanded, entriesExpanded_eq_map]
      congr 1
      refine List.ext_getElem? fun i => ?_
      have hkey := congrArg (·[i]?) hkeys
      simp only [List.getElem?_map] at hkey ⊢
      cases he : es[i]? with
      | none =>
        rw [he, Option.map_none, Option.map_eq_none_iff] at hkey
        rw [hkey, Option.map_none]
      | some e =>
        have hvalue : fs[i]?.map (·.2) = some (e.2.expanded env) :=
          hchild i e.2 (by rw [child?, he, Option.map_some])
        obtain ⟨f, hf, hfe⟩ := Option.map_eq_some_iff.mp hvalue
        rw [he, hf, Option.map_some, Option.map_some, Option.some.injEq] at hkey
        rw [hf, Option.map_some, ← hkey, ← hfe]

/-- At each path the expansion has what becomes of the value there, and this makes it up. -/
theorem expanded_eq_iff (env : Environment) (v w : Value) :
    v.expanded env = w ↔
      ∀ path x, v.atPath path = some x → ∃ y, w.atPath path = some y ∧ ExpandsTo env x y := by
  constructor
  · rintro rfl path x hx
    refine ⟨x.expanded env, ?_, expandsTo_expanded fun _ _ => rfl⟩
    rw [atPath_expanded, hx, Option.map_some]
  · exact expanded_eq_of_atPath env v w

def HasReference (v : Value) (r : Reference) : Prop :=
  ∃ path s parts, v.atPath path = some (.text s) ∧ Decomposes s.toList parts ∧
    TextPart.reference r ∈ parts

theorem hasReference_iff (v : Value) (r : Reference) :
    v.HasReference r ↔ (∃ s, v = .text s ∧ TextPart.reference r ∈ textParts s.toList) ∨
      ∃ i w, v.child? i = some w ∧ w.HasReference r := by
  constructor
  · rintro ⟨path, s, parts, hpath, hparts, hr⟩
    cases path with
    | nil =>
      rw [← (decomposes_iff _ _).mp hparts] at hr
      exact .inl ⟨s, Option.some.inj hpath, hr⟩
    | cons i path =>
      obtain ⟨w, hw, hpath⟩ := Option.bind_eq_some_iff.mp hpath
      exact .inr ⟨i, w, hw, path, s, parts, hpath, hparts, hr⟩
  · rintro (⟨s, rfl, hr⟩ | ⟨i, w, hw, path, s, parts, hpath, hparts, hr⟩)
    · exact ⟨[], s, _, rfl, decomposes_textParts _, hr⟩
    · exact ⟨i :: path, s, parts, by rw [atPath, hw]; exact hpath, hparts, hr⟩

theorem IsKept.not_hasReference {v : Value} (h : v.IsKept) (r : Reference) :
    ¬ v.HasReference r := by
  rw [hasReference_iff]
  rintro (⟨s, rfl, _⟩ | ⟨i, w, hw, _⟩)
  · cases h
  · rw [h.child?_eq] at hw
    cases hw

theorem hasReference_text (s : String) (r : Reference) :
    (Value.text s).HasReference r ↔ TextPart.reference r ∈ textParts s.toList := by
  rw [hasReference_iff]
  simp [child?]

theorem hasReference_list (xs : List Value) (r : Reference) :
    (Value.list .writable xs).HasReference r ↔ ∃ x ∈ xs, x.HasReference r := by
  rw [hasReference_iff]
  simp only [reduceCtorEq, false_and, exists_false, false_or, child?, List.mem_iff_getElem?]
  constructor
  · rintro ⟨i, w, hw, hr⟩
    exact ⟨w, ⟨i, hw⟩, hr⟩
  · rintro ⟨w, ⟨i, hw⟩, hr⟩
    exact ⟨i, w, hw, hr⟩

theorem hasReference_map (es : List (Value × Value)) (r : Reference) :
    (Value.map .writable es).HasReference r ↔ ∃ e ∈ es, e.2.HasReference r := by
  rw [hasReference_iff]
  simp only [reduceCtorEq, false_and, exists_false, false_or, child?, List.mem_iff_getElem?,
    Option.map_eq_some_iff]
  constructor
  · rintro ⟨i, _, ⟨e, he, rfl⟩, hr⟩
    exact ⟨e, ⟨i, he⟩, hr⟩
  · rintro ⟨e, ⟨i, he⟩, hr⟩
    exact ⟨i, e.2, ⟨e, he, rfl⟩, hr⟩

theorem expanded_congr {v : Value} {env₁ env₂ : Environment}
    (h : ∀ r, v.HasReference r → env₁.get? r.name = env₂.get? r.name) :
    v.expanded env₁ = v.expanded env₂ := by
  rw [expanded_eq_iff]
  intro path x hx
  refine ⟨x.expanded env₂, by rw [atPath_expanded, hx, Option.map_some], ?_⟩
  refine expandsTo_expanded fun s hs => ?_
  have hparts := decomposes_textParts s.toList
  exact hparts.expandText_congr fun r hr => (h r ⟨path, s, _, hs ▸ hx, hparts, hr⟩).symm

theorem expanded_eq_self {v : Value} {env : Environment}
    (h : ∀ r, v.HasReference r → env.get? r.name = none ∧ r.default = none) :
    v.expanded env = v := by
  rw [expanded_eq_iff]
  intro path x hx
  refine ⟨x, hx, expandsTo_self fun s hs => ?_⟩
  have hparts := decomposes_textParts s.toList
  exact hparts.expandText_eq_self fun r hr => h r ⟨path, s, _, hs ▸ hx, hparts, hr⟩

/-- The expansion of a document keeps its mappings, lists and keys and all that is no text, puts its
own expansion in the place of each text that mappings and lists lead to, and reads no variables but
those that these texts name. -/
theorem expanded_touches_texts :
    (∀ env (v w : Value), v.expanded env = w ↔
      ∀ path x, v.atPath path = some x → ∃ y, w.atPath path = some y ∧ ExpandsTo env x y) ∧
    (∀ (v : Value) (env₁ env₂ : Environment),
      (∀ r, v.HasReference r → env₁.get? r.name = env₂.get? r.name) →
      v.expanded env₁ = v.expanded env₂) ∧
    ∀ (v : Value) (env : Environment),
      (∀ r, v.HasReference r → env.get? r.name = none ∧ r.default = none) → v.expanded env = v :=
  ⟨expanded_eq_iff, fun _ _ _ h => expanded_congr h, fun _ _ h => expanded_eq_self h⟩

def sampleReferences : Value :=
  .map .writable [(.text "$KEY", .list .writable [.text "$A", .int 1,
    .list .readOnly [.text "$B"]])]

theorem hasReference_sampleReferences (r : Reference) :
    sampleReferences.HasReference r ↔ r = ⟨"A", none, "$A"⟩ := by
  have hparts : textParts ['$', 'A'] = [.reference ⟨"A", none, "$A"⟩] := by decide +kernel
  simp [sampleReferences, hasReference_map, hasReference_list, hasReference_text, hparts,
    (IsKept.int 1).not_hasReference, (IsKept.tuple [.text "$B"]).not_hasReference]

/-- Neither the key nor the tuple is read. -/
theorem expanded_sampleReferences :
    sampleReferences.expanded [("KEY", "k"), ("B", "b")] = sampleReferences ∧
    sampleReferences.expanded [("A", "$B"), ("B", "b")] = sampleReferences.expanded [("A", "$B")] ∧
    (sampleReferences.expanded [("A", "$B")]).atPath [0, 0] = some (.text "$B") := by
  obtain ⟨_, hagree, hunset⟩ := expanded_touches_texts
  refine ⟨hunset _ _ fun r hr => ?_, hagree _ _ _ fun r hr => ?_, by decide +kernel⟩
  · rw [(hasReference_sampleReferences r).mp hr]
    decide
  · rw [(hasReference_sampleReferences r).mp hr]
    decide

end ResolverSetup.Value
