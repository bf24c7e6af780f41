import Mathlib.Data.Finset.Basic
import ResolverSetup.Mirror.Pattern
import ResolverSetup.Proofs.TextTokens
/-! What a pattern of ids or of layouts says depends on the set of its tokens alone. -/
namespace ResolverSetup

def IsNegated (s : String) : Prop := 1 < s.toList.length ∧ s.toList.head? = some '!'

instance : DecidablePred IsNegated := fun _ => inferInstanceAs (Decidable (_ ∧ _))

def tokenSet (pattern : Option String) : Finset String :=
  (Text.commaTokens (pattern.getD "")).toFinset

theorem mem_commaTokens_iff (s t : String) :
    t ∈ Text.commaTokens s ↔ t.toList ∈ Text.tokensAt (· == ',') s.toList := by
  rw [Text.commaTokens, List.mem_map]
  constructor
  · rintro ⟨cs, hcs, rfl⟩
    rwa [String.toList_ofList]
  · intro h
    exact ⟨t.toList, h, String.ofList_toList⟩

theorem mem_tokenSet_some_iff (s t : String) :
    t ∈ tokenSet (some s) ↔ t.toList ∈ Text.tokensAt (· == ',') s.toList := by
  rw [tokenSet, List.mem_toFinset, Option.getD_some, mem_commaTokens_iff]

theorem tokenSet_none : tokenSet none = ∅ := rfl

/-- A token is a piece between commas without the blanks around it, unless nothing is left of it. -/
theorem mem_tokenSet_iff (pattern : Option String) (t : String) :
    t ∈ tokenSet pattern ↔ t ≠ "" ∧ ∃ s, pattern = some s ∧ ∃ ps,
      Text.Divided (· == ',') s.toList ps ∧ ∃ p ∈ ps, Text.Strips Text.isBlank p t.toList := by
  cases pattern with
  | none => simp [tokenSet_none]
  | some s =>
    rw [mem_tokenSet_some_iff, Text.mem_tokensAt_iff]
    simp

theorem tokenSet_congr {s t : String} {ps qs : List (List Char)}
    (hs : Text.Divided (· == ',') s.toList ps) (ht : Text.Divided (· == ',') t.toList qs)
    (h : Text.SameTokens ps qs) : tokenSet (some s) = tokenSet (some t) := by
  ext x
  rw [mem_tokenSet_some_iff, mem_tokenSet_some_iff, Text.tokensAt_eq, Text.tokensAt_eq,
    (Text.divided_iff _ _ _).mp hs, (Text.divided_iff _ _ _).mp ht]
  exact h.mem_tokensOf_iff x.toList

namespace PatternToken

theorem toList_bang_append (x : String) : ("!" ++ x).toList = '!' :: x.toList := by
  rw [String.toList_append]
  rfl

theorem isNegated_iff (s : String) : IsNegated s ↔ ∃ x, x ≠ "" ∧ s = "!" ++ x := by
  constructor
  · rintro ⟨hlength, hhead⟩
    obtain ⟨r, hr⟩ := List.head?_eq_some_iff.mp hhead
    refine ⟨String.ofList r, ?_, ?_⟩
    · intro hx
      have hnil : r = [] := by simpa using congrArg String.toList hx
      simp [hr, hnil] at hlength
    · rw [← String.toList_inj, toList_bang_append, String.toList_ofList, hr]
  · rintro ⟨x, hx, rfl⟩
    rw [IsNegated, toList_bang_append]
    have hne : x.toList ≠ [] := by simpa using hx
    exact ⟨by simpa [List.length_pos_iff] using hne, rfl⟩

theorem ofText_bang_append {x : String} (hx : x ≠ "") : ofText ("!" ++ x) = .excluded x := by
  obtain ⟨c, r, hcr⟩ := List.exists_cons_of_ne_nil (l := x.toList) (by simpa using hx)
  rw [ofText, toList_bang_append, hcr]
  simp only
  rw [← hcr, String.ofList_toList]

theorem ofText_of_not_isNegated {s : String} (h : ¬ IsNegated s) : ofText s = .named s := by
  rw [ofText]
  split
  next c r hs => exact absurd ⟨by simp [hs], by simp [hs]⟩ h
  next => rfl

theorem ofText_eq_excluded_iff (s x : String) : ofText s = .excluded x ↔ x ≠ "" ∧ s = "!" ++ x := by
  constructor
  · intro h
    by_cases hs : IsNegated s
    · obtain ⟨y, hy, rfl⟩ := (isNegated_iff s).mp hs
      rw [ofText_bang_append hy] at h
      cases h
      exact ⟨hy, rfl⟩
    · rw [ofText_of_not_isNegated hs] at h
      cases h
  · rintro ⟨hx, rfl⟩
    exact ofText_bang_append hx

theorem ofText_eq_named_iff (s x : String) : ofText s = .named x ↔ s = x ∧ ¬ IsNegated x := by
  constructor
  · intro h
    by_cases hs : IsNegated s
    · obtain ⟨y, hy, rfl⟩ := (isNegated_iff s).mp hs
      rw [ofText_bang_append hy] at h
      cases h
    · rw [ofText_of_not_isNegated hs] at h
      cases h
      exact ⟨rfl, hs⟩
  · rintro ⟨rfl, hs⟩
    exact ofText_of_not_isNegated hs

end PatternToken

theorem excluded_mem_patternTokens_iff (pattern : Option String) (x : String) :
    .excluded x ∈ patternTokens pattern ↔ x ≠ "" ∧ "!" ++ x ∈ tokenSet pattern := by
  simp only [patternTokens, List.mem_map, PatternToken.ofText_eq_excluded_iff, tokenSet,
    List.mem_toFinset]
  constructor
  · rintro ⟨_, hmem, hx, rfl⟩
    exact ⟨hx, hmem⟩
  · rintro ⟨hx, hmem⟩
    exact ⟨_, hmem, hx, rfl⟩

theorem named_mem_patternTokens_iff (pattern : Option String) (x : String) :
    .named x ∈ patternTokens pattern ↔ x ∈ tokenSet pattern ∧ ¬ IsNegated x := by
  simp only [patternTokens, List.mem_map, PatternToken.ofText_eq_named_iff, tokenSet,
    List.mem_toFinset]
  constructor
  · rintro ⟨_, hmem, rfl, hx⟩
    exact ⟨hmem, hx⟩
  · rintro ⟨hmem, hx⟩
    exact ⟨_, hmem, rfl, hx⟩

theorem patternTokens_eq_nil_iff (pattern : Option String) :
    patternTokens pattern = [] ↔ tokenSet pattern = ∅ := by
  simp [patternTokens, tokenSet]

namespace IdPattern

theorem orWildcard_orWildcard (r : Rank) : r.orWildcard.orWildcard = r.orWildcard := by
  cases r <;> rfl

/-- The walk over the tokens, from any rank on: an exclusion beats a name, and a name beats the
wildcards. -/
theorem rankOver_eq (id : String) (external : Bool) (best : Rank) (ts : List PatternToken) :
    rankOver id external best ts =
      if .excluded id ∈ ts then .unmatched
      else if .named id ∈ ts then .exact
      else if .named anyToken ∈ ts ∨ .named externalToken ∈ ts ∧ external = true then
        best.orWildcard
      else best := by
  induction ts generalizing best with
  | nil => simp [rankOver]
  | cons t ts ih =>
    cases t with
    | excluded x =>
      by_cases hx : x = id
      · simp [rankOver, hx]
      · simp [rankOver, hx, ih, Ne.symm hx]
    | named x =>
      by_cases hx : x = id
      · simp [rankOver, hx, ih, Rank.orWildcard]
      · -- a wildcard raises the rank once, and what stands behind it cannot raise it further
        by_cases hwild : x = anyToken ∨ x = externalToken ∧ external = true
        · have hhas : .named anyToken ∈ PatternToken.named x :: ts ∨
              .named externalToken ∈ PatternToken.named x :: ts ∧ external = true := by
            rcases hwild with rfl | ⟨rfl, hexternal⟩
            · exact .inl List.mem_cons_self
            · exact .inr ⟨List.mem_cons_self, hexternal⟩
          rw [rankOver, if_neg hx, if_pos (by simpa using hwild), ih, if_pos hhas]
          simp [Ne.symm hx, orWildcard_orWildcard]
        · have hhas : (.named anyToken ∈ PatternToken.named x :: ts ∨
              .named externalToken ∈ PatternToken.named x :: ts ∧ external = true) ↔
              .named anyToken ∈ ts ∨ .named externalToken ∈ ts ∧ external = true := by
            grind
          rw [rankOver, if_neg hx, if_neg (by simpa using hwild), ih]
          simp only [hhas]
          simp [Ne.symm hx]

theorem rank_eq (pattern : Option String) (id : String) (external : Bool) :
    rank pattern id external =
      if id ≠ "" ∧ "!" ++ id ∈ tokenSet pattern then .unmatched
      else if id ∈ tokenSet pattern ∧ ¬ IsNegated id then .exact
      else if anyToken ∈ tokenSet pattern ∨ externalToken ∈ tokenSet pattern ∧ external = true then
        .wildcard
      else .unmatched := by
  have hany : ¬ IsNegated anyToken := by decide
  have hexternal : ¬ IsNegated externalToken := by decide
  rw [rank, rankOver_eq]
  simp only [excluded_mem_patternTokens_iff, named_mem_patternTokens_iff, hany, hexternal,
    not_false_eq_true, and_true, Rank.orWildcard]

end IdPattern

namespace LayoutPattern

theorem fitsOver_iff (layout : String) (found : Bool) (ts : List PatternToken) :
    fitsOver (.text layout) found ts = true ↔ .excluded layout ∉ ts ∧
      (found = true ∨ .named IdPattern.anyToken ∈ ts ∨ .named layout ∈ ts) := by
  induction ts generalizing found with
  | nil => simp [fitsOver]
  | cons t ts ih =>
    cases t with
    | excluded x =>
      by_cases hx : x = layout
      · simp [fitsOver, hx]
      · simp [fitsOver, ih, Ne.symm hx]
    | named x =>
      simp only [fitsOver, ih]
      simp only [Bool.or_eq_true, decide_eq_true_eq, Value.text.injEq, List.mem_cons, reduceCtorEq,
        false_or, PatternToken.named.injEq]
      grind

theorem fits_iff (pattern : Option String) (layout : String) :
    fits pattern (.text layout) = true ↔ tokenSet pattern = ∅ ∨
      ¬ (layout ≠ "" ∧ "!" ++ layout ∈ tokenSet pattern) ∧
        (IdPattern.anyToken ∈ tokenSet pattern ∨ layout ∈ tokenSet pattern ∧ ¬ IsNegated layout) := by
  have hany : ¬ IsNegated IdPattern.anyToken := by decide
  rw [fits]
  split
  next h => simp [(patternTokens_eq_nil_iff pattern).mp h]
  next h =>
    have hne : tokenSet pattern ≠ ∅ := fun he => h ((patternTokens_eq_nil_iff pattern).mpr he)
    rw [fitsOver_iff, excluded_mem_patternTokens_iff, named_mem_patternTokens_iff,
      named_mem_patternTokens_iff]
    simp [hne, hany]

end LayoutPattern

/-- Both readings of a pattern follow from its set of tokens, so its pieces may be put in another
order, repeated, padded with blanks, or joined by blank ones. -/
theorem patterns_orderFree :
    (∀ pattern t, t ∈ tokenSet pattern ↔ t ≠ "" ∧ ∃ s, pattern = some s ∧ ∃ ps,
      Text.Divided (· == ',') s.toList ps ∧ ∃ p ∈ ps, Text.Strips Text.isBlank p t.toList) ∧
    (∀ pattern id external, IdPattern.rank pattern id external =
      if id ≠ "" ∧ "!" ++ id ∈ tokenSet pattern then .unmatched
      else if id ∈ tokenSet pattern ∧ ¬ IsNegated id then .exact
      else if "*" ∈ tokenSet pattern ∨ "external:*" ∈ tokenSet pattern ∧ external = true then
        .wildcard
      else .unmatched) ∧
    (∀ pattern layout, LayoutPattern.fits pattern (.text layout) = true ↔ tokenSet pattern = ∅ ∨
      ¬ (layout ≠ "" ∧ "!" ++ layout ∈ tokenSet pattern) ∧
        ("*" ∈ tokenSet pattern ∨ layout ∈ tokenSet pattern ∧ ¬ IsNegated layout)) ∧
    ∀ s t ps qs, Text.Divided (· == ',') s.toList ps → Text.Divided (· == ',') t.toList qs →
      Text.SameTokens ps qs →
      (∀ id external, IdPattern.rank (some s) id external = IdPattern.rank (some t) id external) ∧
      ∀ layout, LayoutPattern.fits (some s) (.text layout) =
        LayoutPattern.fits (some t) (.text layout) := by
  refine ⟨mem_tokenSet_iff, IdPattern.rank_eq, LayoutPattern.fits_iff, ?_⟩
  intro s t ps qs hs ht hsame
  have hset := tokenSet_congr hs ht hsame
  refine ⟨fun id external => ?_, fun layout => ?_⟩
  · rw [IdPattern.rank_eq, IdPattern.rank_eq, hset]
  · rw [Bool.eq_iff_iff, LayoutPattern.fits_iff, LayoutPattern.fits_iff, hset]

/-- An exclusion moved to the front, padded and with an empty piece behind it. -/
theorem patterns_sampleEdits :
    Text.Divided (· == ',') "*,!central".toList ["*".toList, "!central".toList] ∧
    Text.Divided (· == ',') " !central ,,*,*".toList
      [" !central ".toList, [], "*".toList, "*".toList] ∧
    IdPattern.rank (some "*,!central") "central" true = .unmatched ∧
    (∀ id external, IdPattern.rank (some "*,!central") id external =
      IdPattern.rank (some " !central ,,*,*") id external) ∧
    ∀ layout, LayoutPattern.fits (some "*,!central") (.text layout) =
      LayoutPattern.fits (some " !central ,,*,*") (.text layout) := by
  obtain ⟨_, hrank, _, hedit⟩ := patterns_orderFree
  have hs : Text.Divided (· == ',') "*,!central".toList ["*".toList, "!central".toList] :=
    (Text.divided_iff _ _ _).mpr (by decide)
  have ht : Text.Divided (· == ',') " !central ,,*,*".toList
      [" !central ".toList, [], "*".toList, "*".toList] :=
    (Text.divided_iff _ _ _).mpr (by decide)
  have hrepeated : Text.PieceEdit ["*".toList, "!central".toList]
      ["*".toList, "*".toList, "!central".toList] := .repeated (by decide)
  have hempty : Text.PieceEdit ["*".toList, "*".toList, "!central".toList]
      [[], "*".toList, "*".toList, "!central".toList] := .blank (by simp)
  have hreordered : Text.PieceEdit [[], "*".toList, "*".toList, "!central".toList]
      ["!central".toList, [], "*".toList, "*".toList] := .reordered (by decide)
  have hspace : ∀ c ∈ [' '], Text.isBlank c = true := List.forall_mem_singleton.mpr (by decide)
  have hpadded : Text.PieceEdit ["!central".toList, [], "*".toList, "*".toList]
      [[' '] ++ "!central".toList ++ [' '], [], "*".toList, "*".toList] :=
    .padded hspace hspace
  have hsame := ((Relation.EqvGen.rel _ _ hrepeated).trans _ _ _ (.rel _ _ hempty)).trans _ _ _
    ((Relation.EqvGen.rel _ _ hreordered).trans _ _ _ (.rel _ _ hpadded))
  exact ⟨hs, ht, (hrank _ _ _).trans (by decide), hedit _ _ _ _ hs ht hsame⟩

end ResolverSetup
