import Mathlib.Data.List.TakeWhile
import Mathlib.Logic.Relation
import ResolverSetup.Text.Split
/-! Texts as pieces with separators between them, and the tokens that are left of the pieces once
the blanks around them are gone. Changes of the pieces that no token notices are `PieceEdit`s. -/
namespace ResolverSetup.Text

section
variable {p : Char → Bool}

theorem dropWhile_append_eq {xs ys : List Char} (hx : ∀ c ∈ xs, p c = true)
    (hy : ∀ c, ys.head? = some c → p c = false) : (xs ++ ys).dropWhile p = ys := by
  rw [List.dropWhile_append_of_pos hx]
  cases ys with
  | nil => rfl
  | cons c ys => exact List.dropWhile_cons_of_neg (by simp [hy c rfl])

theorem takeWhile_append_eq {xs ys : List Char} (hx : ∀ c ∈ xs, p c = true)
    (hy : ∀ c, ys.head? = some c → p c = false) : (xs ++ ys).takeWhile p = xs := by
  have hall := List.takeWhile_append_dropWhile (p := p) (l := xs ++ ys)
  rw [dropWhile_append_eq hx hy] at hall
  exact List.append_cancel_right hall

/-- Stripping takes off what stands around a text whose ends stay. -/
theorem strip_append {before s after : List Char} (hbefore : ∀ c ∈ before, p c = true)
    (hafter : ∀ c ∈ after, p c = true) (hs : s ≠ []) (hfirst : ∀ c, s.head? = some c → p c = false)
    (hlast : ∀ c, s.getLast? = some c → p c = false) : strip p (before ++ s ++ after) = s := by
  have hfront : (before ++ s ++ after).dropWhile p = s ++ after := by
    rw [List.append_assoc]
    refine dropWhile_append_eq hbefore fun c hc => hfirst c ?_
    rwa [List.head?_append, Option.or_of_isSome (by simp [hs])] at hc
  have hback : (after.reverse ++ s.reverse).dropWhile p = s.reverse :=
    dropWhile_append_eq (by simpa using hafter) (by simpa using hlast)
  rw [strip, hfront, List.reverse_append, hback, List.reverse_reverse]

theorem eq_append_strip (p : Char → Bool) (s : List Char) :
    ∃ before after, s = before ++ strip p s ++ after ∧ (∀ c ∈ before, p c = true) ∧
      ∀ c ∈ after, p c = true := by
  refine ⟨s.takeWhile p, ((s.dropWhile p).reverse.takeWhile p).reverse, ?_,
    fun c hc => List.mem_takeWhile_imp hc, fun c hc => ?_⟩
  · rw [strip, List.append_assoc, ← List.reverse_append, List.takeWhile_append_dropWhile,
      List.reverse_reverse, List.takeWhile_append_dropWhile]
  · exact List.mem_takeWhile_imp (List.mem_reverse.mp hc)

theorem eq_false_of_head?_dropWhile {s : List Char} {c : Char}
    (h : (s.dropWhile p).head? = some c) : p c = false := by
  have hne : s.dropWhile p ≠ [] := by
    intro hnil
    rw [hnil] at h
    cases h
  rw [List.head?_eq_some_head hne] at h
  cases h
  simpa using List.head_dropWhile_not p hne

theorem eq_false_of_getLast?_strip {s : List Char} {c : Char}
    (h : (strip p s).getLast? = some c) : p c = false := by
  rw [strip, List.getLast?_reverse] at h
  exact eq_false_of_head?_dropWhile h

theorem dropWhile_eq_strip_append (p : Char → Bool) (s : List Char) :
    ∃ after, s.dropWhile p = strip p s ++ after := by
  refine ⟨((s.dropWhile p).reverse.takeWhile p).reverse, ?_⟩
  rw [strip, ← List.reverse_append, List.takeWhile_append_dropWhile, List.reverse_reverse]

theorem eq_false_of_head?_strip {s : List Char} {c : Char}
    (h : (strip p s).head? = some c) : p c = false := by
  obtain ⟨after, hs⟩ := dropWhile_eq_strip_append p s
  refine eq_false_of_head?_dropWhile (s := s) ?_
  rw [hs, List.head?_append, h, Option.some_or]

theorem strip_eq_nil_iff (p : Char → Bool) (s : List Char) :
    strip p s = [] ↔ ∀ c ∈ s, p c = true := by
  constructor
  · intro h
    obtain ⟨before, after, hs, hbefore, hafter⟩ := eq_append_strip p s
    intro c hc
    rw [hs, h, List.append_nil] at hc
    exact (List.mem_append.mp hc).elim (hbefore c) (hafter c)
  · intro h
    rw [strip, List.dropWhile_eq_nil_iff.mpr h]
    rfl

end

structure Strips (p : Char → Bool) (s t : List Char) : Prop where
  around : ∃ before after, s = before ++ t ++ after ∧ (∀ c ∈ before, p c = true) ∧
    ∀ c ∈ after, p c = true
  first : ∀ c, t.head? = some c → p c = false
  last : ∀ c, t.getLast? = some c → p c = false

theorem strips_strip (p : Char → Bool) (s : List Char) : Strips p s (strip p s) :=
  ⟨eq_append_strip p s, fun _ h => eq_false_of_head?_strip h,
    fun _ h => eq_false_of_getLast?_strip h⟩

theorem strip_eq_iff (p : Char → Bool) (s t : List Char) : strip p s = t ↔ Strips p s t := by
  constructor
  · rintro rfl
    exact strips_strip p s
  · rintro ⟨⟨before, after, rfl, hbefore, hafter⟩, hfirst, hlast⟩
    by_cases ht : t = []
    · subst ht
      rw [strip_eq_nil_iff]
      intro c hc
      simp only [List.append_nil, List.mem_append] at hc
      exact hc.elim (hbefore c) (hafter c)
    · exact strip_append hbefore hafter ht hfirst hlast

theorem strip_padded {p : Char → Bool} {before after : List Char}
    (hbefore : ∀ c ∈ before, p c = true) (hafter : ∀ c ∈ after, p c = true) (s : List Char) :
    strip p (before ++ s ++ after) = strip p s := by
  obtain ⟨⟨front, back, hs, hfront, hback⟩, hfirst, hlast⟩ := strips_strip p s
  refine (strip_eq_iff p _ _).mpr ⟨⟨before ++ front, back ++ after, ?_, ?_, ?_⟩, hfirst, hlast⟩
  · calc before ++ s ++ after = before ++ (front ++ strip p s ++ back) ++ after := by rw [← hs]
      _ = before ++ front ++ strip p s ++ (back ++ after) := by simp only [List.append_assoc]
  · intro c hc
    exact (List.mem_append.mp hc).elim (hbefore c) (hfront c)
  · intro c hc
    exact (List.mem_append.mp hc).elim (hback c) (hafter c)

section
variable {sep : Char → Bool}

inductive Divided (sep : Char → Bool) : List Char → List (List Char) → Prop
  | whole {p : List Char} (h : ∀ c ∈ p, sep c = false) : Divided sep p [p]
  | cut {p s : List Char} {c : Char} {ps : List (List Char)} (h : ∀ d ∈ p, sep d = false)
      (hc : sep c = true) (hs : Divided sep s ps) : Divided sep (p ++ c :: s) (p :: ps)

theorem pieces_of_free {p : List Char} (h : ∀ c ∈ p, sep c = false) : pieces sep p = [p] := by
  induction p with
  | nil => rfl
  | cons c p ih =>
    have hc : sep c = false := h c List.mem_cons_self
    rw [pieces, hc, ih fun d hd => h d (List.mem_cons_of_mem c hd)]
    rfl

theorem pieces_append_cons (s t : List Char) {c : Char} (hc : sep c = true) :
    pieces sep (s ++ c :: t) = pieces sep s ++ pieces sep t := by
  induction s with
  | nil => simp [pieces, hc]
  | cons d s ih =>
    rw [List.cons_append, pieces, pieces, ih]
    split
    case isTrue => rfl
    case isFalse =>
      -- there is a first piece of s, and d goes to its front on both sides
      obtain ⟨p, ps, hps⟩ := List.exists_cons_of_ne_nil (pieces_ne_nil sep s)
      rw [hps]
      rfl

theorem divided_pieces (sep : Char → Bool) (s : List Char) : Divided sep s (pieces sep s) := by
  induction s with
  | nil => exact .whole fun _ h => nomatch h
  | cons c s ih =>
    rw [pieces]
    split
    case isTrue hc => exact .cut (p := []) (fun _ h => nomatch h) hc ih
    case isFalse hc =>
      have hc : sep c = false := by simpa using hc
      generalize pieces sep s = ps at ih
      cases ih with
      | whole h => exact .whole (List.forall_mem_cons.mpr ⟨hc, h⟩)
      | cut h hd hs => exact .cut (p := c :: _) (List.forall_mem_cons.mpr ⟨hc, h⟩) hd hs

theorem divided_iff (sep : Char → Bool) (s : List Char) (ps : List (List Char)) :
    Divided sep s ps ↔ pieces sep s = ps := by
  constructor
  · intro h
    induction h with
    | whole h => exact pieces_of_free h
    | cut h hc _ ih =>
      rw [pieces_append_cons _ _ hc, pieces_of_free h, ih]
      rfl
  · rintro rfl
    exact divided_pieces sep s

/-- Joining free pieces by a separator and cutting again gives the same pieces. -/
theorem pieces_intercalate {c : Char} (hc : sep c = true) {ps : List (List Char)} (hne : ps ≠ [])
    (h : ∀ p ∈ ps, ∀ d ∈ p, sep d = false) : pieces sep ([c].intercalate ps) = ps := by
  induction ps with
  | nil => exact absurd rfl hne
  | cons p ps ih =>
    obtain ⟨hp, hps⟩ := List.forall_mem_cons.mp h
    cases ps with
    | nil => rw [List.intercalate_singleton, pieces_of_free hp]
    | cons q qs =>
      rw [List.intercalate_cons_cons, List.append_assoc, List.singleton_append,
        pieces_append_cons p _ hc, pieces_of_free hp, ih (List.cons_ne_nil q qs) hps]
      rfl

end

theorem notMem_iff_beq (x : Char) (s : List Char) : x ∉ s ↔ ∀ c ∈ s, (c == x) = false := by
  constructor
  · intro h c hc
    rw [beq_eq_false_iff_ne]
    exact fun he => h (he ▸ hc)
  · intro h hmem
    have hself := h x hmem
    simp at hself

/-- What is divided consists of its pieces and of separators. -/
theorem Divided.free {sep : Char → Bool} {s : List Char} {ps : List (List Char)}
    (h : Divided sep s ps) : ∀ p ∈ ps, ∀ c ∈ p, c ∈ s ∧ sep c = false := by
  induction h with
  | whole h =>
    intro p hp c hc
    obtain rfl := List.mem_singleton.mp hp
    exact ⟨hc, h c hc⟩
  | cut h _ _ ih =>
    intro q hq c hc
    rcases List.mem_cons.mp hq with rfl | hq
    · exact ⟨List.mem_append_left _ hc, h c hc⟩
    · obtain ⟨hmem, hfree⟩ := ih q hq c hc
      exact ⟨List.mem_append_right _ (List.mem_cons_of_mem _ hmem), hfree⟩

def tokensOf (ps : List (List Char)) : List (List Char) := (ps.map trim).filter (!·.isEmpty)

theorem tokensAt_eq (sep : Char → Bool) (s : List Char) :
    tokensAt sep s = tokensOf (pieces sep s) := rfl

theorem mem_tokensOf_iff (ps : List (List Char)) (t : List Char) :
    t ∈ tokensOf ps ↔ t ≠ [] ∧ ∃ p ∈ ps, Strips isBlank p t := by
  simp only [tokensOf, List.mem_filter, List.mem_map, trim_eq_strip, strip_eq_iff]
  simp [and_comm]

theorem mem_tokensAt_iff (sep : Char → Bool) (s t : List Char) :
    t ∈ tokensAt sep s ↔ t ≠ [] ∧ ∃ ps, Divided sep s ps ∧ ∃ p ∈ ps, Strips isBlank p t := by
  rw [tokensAt_eq, mem_tokensOf_iff]
  simp [divided_iff]

theorem tokensAt_of_blank {sep : Char → Bool} {s : List Char}
    (h : ∀ c ∈ s, sep c = true ∨ isBlank c = true) : tokensAt sep s = [] := by
  rw [List.eq_nil_iff_forall_not_mem]
  intro t ht
  obtain ⟨hne, ps, hps, p, hp, hstrips⟩ := (mem_tokensAt_iff sep s t).mp ht
  have hblank : ∀ c ∈ p, isBlank c = true := by
    intro c hc
    obtain ⟨hmem, hfree⟩ := hps.free p hp c hc
    exact (h c hmem).resolve_left (by simp [hfree])
  exact hne (((strip_eq_iff isBlank p t).mpr hstrips).symm.trans
    ((strip_eq_nil_iff isBlank p).mpr hblank))

/-- A change of pieces that does not change which tokens there are. -/
inductive PieceEdit : List (List Char) → List (List Char) → Prop
  | reordered {ps qs : List (List Char)} (h : ps.Perm qs) : PieceEdit ps qs
  | repeated {p : List Char} {ps : List (List Char)} (h : p ∈ ps) : PieceEdit ps (p :: ps)
  | padded {before p after : List Char} {ps : List (List Char)}
      (hbefore : ∀ c ∈ before, isBlank c = true) (hafter : ∀ c ∈ after, isBlank c = true) :
      PieceEdit (p :: ps) ((before ++ p ++ after) :: ps)
  | blank {p : List Char} {ps : List (List Char)} (h : ∀ c ∈ p, isBlank c = true) :
      PieceEdit ps (p :: ps)

theorem tokensOf_append (ps qs : List (List Char)) :
    tokensOf (ps ++ qs) = tokensOf ps ++ tokensOf qs := by
  rw [tokensOf, List.map_append, List.filter_append]
  rfl

theorem PieceEdit.mem_tokensOf_iff {ps qs : List (List Char)} (h : PieceEdit ps qs)
    (t : List Char) : t ∈ tokensOf ps ↔ t ∈ tokensOf qs := by
  cases h with
  | reordered h => exact ((h.map trim).filter _).mem_iff
  | @repeated p _ h =>
    rw [Text.mem_tokensOf_iff, Text.mem_tokensOf_iff]
    have hmem : ∀ q, q ∈ p :: ps ↔ q ∈ ps := by
      intro q
      constructor
      · intro hq
        rcases List.mem_cons.mp hq with rfl | hq
        · exact h
        · exact hq
      · exact List.mem_cons_of_mem p
    simp only [hmem]
  | @padded before p after ps hbefore hafter =>
    have htrim : trim (before ++ p ++ after) = trim p := strip_padded hbefore hafter p
    rw [tokensOf, tokensOf, List.map_cons, List.map_cons, htrim]
  | @blank p _ h =>
    have hnil : tokensOf [p] = [] := by
      simp [tokensOf, trim_eq_strip, (strip_eq_nil_iff isBlank p).mpr h]
    rw [← List.singleton_append, tokensOf_append, hnil, List.nil_append]

def SameTokens : List (List Char) → List (List Char) → Prop := Relation.EqvGen PieceEdit

theorem SameTokens.mem_tokensOf_iff {ps qs : List (List Char)} (h : SameTokens ps qs)
    (t : List Char) : t ∈ tokensOf ps ↔ t ∈ tokensOf qs := by
  induction h with
  | rel _ _ h => exact h.mem_tokensOf_iff t
  | refl _ => exact Iff.rfl
  | symm _ _ _ ih => exact ih.symm
  | trans _ _ _ _ _ ih₁ ih₂ => exact ih₁.trans ih₂

end ResolverSetup.Text
