import Mathlib.Data.List.Forall2
import ResolverSetup.Proofs.TextTokens
import ResolverSetup.Reference
/-! How references to environment variables are written, and that one pass over a text finds them
all and puts nothing but their values in their places. -/
namespace ResolverSetup

namespace Reference

def IsName (n : List Char) : Prop :=
  ∃ c s, n = c :: s ∧ startsName c = true ∧ ∀ d ∈ s, isNameChar d = true

/-- What a text begins with is a reference, in braces with or without a default, or else by the
longest name there is; and the text behind it. -/
inductive Begins (s : List Char) : Reference → List Char → Prop
  | braced {n rest : List Char} (hn : IsName n) (hs : s = '$' :: '\x7b' :: (n ++ '\x7d' :: rest)) :
      Begins s ⟨String.ofList n, none, String.ofList ('$' :: '\x7b' :: n ++ ['\x7d'])⟩ rest
  | defaulted {n d rest : List Char} (hn : IsName n) (hd : '\x7d' ∉ d)
      (hs : s = '$' :: '\x7b' :: (n ++ ':' :: '-' :: (d ++ '\x7d' :: rest))) :
      Begins s ⟨String.ofList n, some (String.ofList d),
        String.ofList ('$' :: '\x7b' :: n ++ ':' :: '-' :: d ++ ['\x7d'])⟩ rest
  | bare {n rest : List Char} (hn : IsName n)
      (hlongest : ∀ c, rest.head? = some c → isNameChar c = false) (hs : s = '$' :: (n ++ rest)) :
      Begins s ⟨String.ofList n, none, String.ofList ('$' :: n)⟩ rest

theorem isNameChar_of_startsName {c : Char} (h : startsName c = true) : isNameChar c = true := by
  simp only [startsName, isNameChar, Char.isAlphanum, Bool.or_eq_true] at h ⊢
  exact h.imp .inl id

theorem IsName.ne_nil {n : List Char} (hn : IsName n) : n ≠ [] := by
  obtain ⟨c, s, rfl, _⟩ := hn
  exact List.cons_ne_nil c s

theorem IsName.isNameChar {n : List Char} (hn : IsName n) : ∀ c ∈ n, isNameChar c = true := by
  obtain ⟨c, s, rfl, hc, hs⟩ := hn
  exact List.forall_mem_cons.mpr ⟨isNameChar_of_startsName hc, hs⟩

theorem spanName_append {n rest : List Char} (hn : IsName n)
    (hrest : ∀ c, rest.head? = some c → isNameChar c = false) :
    spanName (n ++ rest) = (n, rest) := by
  obtain ⟨c, s, rfl, hc, hs⟩ := hn
  rw [List.cons_append, spanName, if_pos hc, Text.takeWhile_append_eq hs hrest,
    Text.dropWhile_append_eq hs hrest]

theorem spanName_eq {s n rest : List Char} (h : spanName s = (n, rest)) (hn : n ≠ []) :
    IsName n ∧ s = n ++ rest ∧ ∀ c, rest.head? = some c → isNameChar c = false := by
  cases s with
  | nil =>
    rw [spanName, Prod.mk.injEq] at h
    exact absurd h.1.symm hn
  | cons c s =>
    rw [spanName] at h
    split at h
    case isTrue hc =>
      obtain ⟨rfl, rfl⟩ := Prod.mk.inj h
      refine ⟨⟨c, _, rfl, hc, fun d hd => List.mem_takeWhile_imp hd⟩, ?_,
        fun d hd => Text.eq_false_of_head?_dropWhile hd⟩
      rw [List.cons_append, List.takeWhile_append_dropWhile]
    case isFalse =>
      rw [Prod.mk.injEq] at h
      exact absurd h.1.symm hn

theorem span_default {d rest : List Char} (hd : '\x7d' ∉ d) :
    (d ++ '\x7d' :: rest).takeWhile (· != '\x7d') = d ∧
      (d ++ '\x7d' :: rest).dropWhile (· != '\x7d') = '\x7d' :: rest := by
  have hinside : ∀ c ∈ d, (c != '\x7d') = true :=
    fun c hc => bne_iff_ne.mpr fun heq => hd (heq ▸ hc)
  have hend : ∀ c, ('\x7d' :: rest).head? = some c → (c != '\x7d') = false := by
    rintro c ⟨⟩
    rfl
  exact ⟨Text.takeWhile_append_eq hinside hend, Text.dropWhile_append_eq hinside hend⟩

theorem Begins.braced_of_braced? {s rest : List Char} {r : Reference}
    (h : braced? s = some (r, rest)) : Begins ('$' :: '\x7b' :: s) r rest := by
  rcases hspan : spanName s with ⟨n, tail⟩
  rw [braced?, hspan] at h
  dsimp only at h
  split at h
  case isTrue => cases h
  case isFalse hn =>
    obtain ⟨hname, rfl, -⟩ := spanName_eq hspan (by simpa using hn)
    -- what stands behind the name decides: a closing brace, a default, or no reference
    split at h
    next t =>
      cases h
      exact .braced hname rfl
    next t =>
      split at h
      next c r' hdrop =>
        cases h
        have hc : c = '\x7d' := by
          have hhead := Text.eq_false_of_head?_dropWhile (p := (· != '\x7d')) (s := t) (c := c)
            (by rw [hdrop]; rfl)
          simpa using hhead
        subst hc
        refine .defaulted hname (fun hmem => ?_) ?_
        · have htake := List.mem_takeWhile_imp hmem
          simp at htake
        · rw [← hdrop, List.takeWhile_append_dropWhile]
      next => cases h
    next => cases h

theorem braced?_eq_some_iff (s rest : List Char) (r : Reference) :
    braced? s = some (r, rest) ↔ Begins ('$' :: '\x7b' :: s) r rest := by
  refine ⟨Begins.braced_of_braced?, fun h => ?_⟩
  cases h with
  | @braced n _ hn hs =>
    obtain rfl : s = n ++ '\x7d' :: rest := by simpa using hs
    rw [braced?, spanName_append hn (by rintro c ⟨⟩; decide)]
    simp [hn.ne_nil]
  | @defaulted n d _ hn hd hs =>
    obtain rfl : s = n ++ ':' :: '-' :: (d ++ '\x7d' :: rest) := by simpa using hs
    rw [braced?, spanName_append hn (by rintro c ⟨⟩; decide)]
    simp [hn.ne_nil, span_default hd]
  | bare hn _ hs =>
    obtain ⟨c, t, rfl, hc, _⟩ := hn
    obtain rfl : '\x7b' = c := by
      simp only [List.cons_append, List.cons.injEq, true_and] at hs
      exact hs.1
    exact absurd hc (by decide)

theorem after?_of_bare {s n rest : List Char} (h : s.head? ≠ some '\x7b')
    (hspan : spanName s = (n, rest)) :
    after? s = if n.isEmpty then none
      else some (⟨String.ofList n, none, String.ofList ('$' :: n)⟩, rest) := by
  rw [after?]
  · rw [hspan]
  · rintro t rfl
    exact h rfl

/-- What stands behind a dollar sign is read as a reference just when one begins there. -/
theorem after?_eq_some_iff (s rest : List Char) (r : Reference) :
    after? s = some (r, rest) ↔ Begins ('$' :: s) r rest := by
  by_cases hbrace : s.head? = some '\x7b'
  · obtain ⟨t, rfl⟩ := List.head?_eq_some_iff.mp hbrace
    exact braced?_eq_some_iff t rest r
  · constructor
    · intro h
      rcases hspan : spanName s with ⟨n, tail⟩
      rw [after?_of_bare hbrace hspan] at h
      split at h
      case isTrue => cases h
      case isFalse hn =>
        obtain ⟨hname, rfl, hlongest⟩ := spanName_eq hspan (by simpa using hn)
        cases h
        exact .bare hname hlongest rfl
    · intro h
      cases h with
      | braced _ hs =>
        obtain ⟨_, rfl⟩ := List.cons_eq_cons.mp hs
        exact absurd rfl hbrace
      | defaulted _ _ hs =>
        obtain ⟨_, rfl⟩ := List.cons_eq_cons.mp hs
        exact absurd rfl hbrace
      | bare hn hlongest hs =>
        obtain ⟨_, rfl⟩ := List.cons_eq_cons.mp hs
        rw [after?_of_bare hbrace (spanName_append hn hlongest)]
        simp [hn.ne_nil]

theorem Begins.exists_dollar {s rest : List Char} {r : Reference} (h : Begins s r rest) :
    ∃ t, s = '$' :: t := by
  cases h with
  | braced _ hs => exact ⟨_, hs⟩
  | defaulted _ _ hs => exact ⟨_, hs⟩
  | bare _ _ hs => exact ⟨_, hs⟩

theorem Begins.eq_written_append {s rest : List Char} {r : Reference} (h : Begins s r rest) :
    s = r.written.toList ++ rest := by
  cases h with
  | braced _ hs => simp [hs]
  | defaulted _ _ hs => simp [hs]
  | bare _ _ hs => simp [hs]

end Reference

inductive Decomposes : List Char → List TextPart → Prop
  | done : Decomposes [] []
  | reference {s rest : List Char} {r : Reference} {parts : List TextPart}
      (hr : Reference.Begins s r rest) (h : Decomposes rest parts) :
      Decomposes s (.reference r :: parts)
  | literal {c : Char} {s : List Char} {parts : List TextPart}
      (hc : ∀ r rest, ¬ Reference.Begins (c :: s) r rest) (h : Decomposes s parts) :
      Decomposes (c :: s) (.literal c :: parts)

theorem textParts_of_some {s rest : List Char} {r : Reference}
    (h : Reference.after? s = some (r, rest)) :
    textParts ('$' :: s) = .reference r :: textParts rest := by
  rw [textParts, if_pos rfl]
  split
  next h' =>
    cases h.symm.trans h'
    rfl
  next h' => cases h.symm.trans h'

theorem textParts_of_none {s : List Char} (h : Reference.after? s = none) :
    textParts ('$' :: s) = .literal '$' :: textParts s := by
  rw [textParts, if_pos rfl]
  split
  next h' => cases h.symm.trans h'
  next => rfl

theorem textParts_of_ne {c : Char} (hc : c ≠ '$') (s : List Char) :
    textParts (c :: s) = .literal c :: textParts s := by
  rw [textParts, if_neg hc]

theorem decomposes_textParts (s : List Char) : Decomposes s (textParts s) := by
  fun_induction textParts s with
  | case1 => exact .done
  | case2 s r rest h ih => exact .reference ((Reference.after?_eq_some_iff _ _ _).mp h) ih
  | case3 s h ih =>
    refine .literal (fun r rest hr => ?_) ih
    cases h.symm.trans ((Reference.after?_eq_some_iff _ _ _).mpr hr)
  | case4 c s hc ih =>
    refine .literal (fun r rest hr => ?_) ih
    obtain ⟨t, ht⟩ := hr.exists_dollar
    exact hc (List.cons_eq_cons.mp ht).1

theorem decomposes_iff (s : List Char) (parts : List TextPart) :
    Decomposes s parts ↔ textParts s = parts := by
  constructor
  · intro h
    induction h with
    | done => rw [textParts]
    | reference hr _ ih =>
      obtain ⟨t, rfl⟩ := hr.exists_dollar
      rw [textParts_of_some ((Reference.after?_eq_some_iff _ _ _).mpr hr), ih]
    | @literal c s parts hc _ ih =>
      by_cases hdollar : c = '$'
      · subst hdollar
        have hnone : Reference.after? s = none := by
          rw [Option.eq_none_iff_forall_ne_some]
          rintro ⟨r, rest⟩ hr
          exact hc r rest ((Reference.after?_eq_some_iff _ _ _).mp hr)
        rw [textParts_of_none hnone, ih]
      · rw [textParts_of_ne hdollar, ih]
  · rintro rfl
    exact decomposes_textParts s

namespace TextPart

def written : TextPart → List Char
  | literal c => [c]
  | reference r => r.written.toList

/-- What takes the place of a part: the value of a variable that is set, a default where there is
one, and else the part itself. -/
inductive Resolves (env : Environment) : TextPart → List Char → Prop
  | literal (c : Char) : Resolves env (.literal c) [c]
  | value {r : Reference} {v : String} (h : env.get? r.name = some v) :
      Resolves env (.reference r) v.toList
  | default {r : Reference} {d : String} (h : env.get? r.name = none) (hd : r.default = some d) :
      Resolves env (.reference r) d.toList
  | missing {r : Reference} (h : env.get? r.name = none) (hd : r.default = none) :
      Resolves env (.reference r) r.written.toList

theorem resolves_expand (env : Environment) (p : TextPart) : Resolves env p (p.expand env) := by
  cases p with
  | literal c => exact .literal c
  | reference r =>
    rw [expand, Reference.resolve]
    cases hvalue : env.get? r.name with
    | some v => exact .value hvalue
    | none =>
      cases hd : r.default with
      | some d => exact .default hvalue hd
      | none => exact .missing hvalue hd

theorem expand_eq_written {env : Environment} {p : TextPart}
    (h : ∀ r, p = .reference r → env.get? r.name = none ∧ r.default = none) :
    p.expand env = p.written := by
  cases p with
  | literal c => rfl
  | reference r =>
    obtain ⟨hvalue, hd⟩ := h r rfl
    rw [expand, Reference.resolve, hvalue, hd]
    rfl

end TextPart

theorem Decomposes.flatMap_written {s : List Char} {parts : List TextPart}
    (h : Decomposes s parts) : parts.flatMap TextPart.written = s := by
  induction h with
  | done => rfl
  | reference hr _ ih => rw [List.flatMap_cons, ih, hr.eq_written_append, TextPart.written]
  | literal _ _ ih =>
    rw [List.flatMap_cons, ih]
    rfl

theorem Decomposes.toList_expandText {s : String} {parts : List TextPart}
    (h : Decomposes s.toList parts) (env : Environment) :
    (expandText env s).toList = parts.flatMap (·.expand env) := by
  rw [expandText, String.toList_ofList, (decomposes_iff _ _).mp h]

/-- Only the variables that a text names count. -/
theorem Decomposes.expandText_congr {s : String} {parts : List TextPart}
    (h : Decomposes s.toList parts) {env₁ env₂ : Environment}
    (hagree : ∀ r, .reference r ∈ parts → env₁.get? r.name = env₂.get? r.name) :
    expandText env₁ s = expandText env₂ s := by
  rw [← String.toList_inj, h.toList_expandText, h.toList_expandText]
  refine List.flatMap_congr fun p hp => ?_
  cases p with
  | literal c => rfl
  | reference r =>
    rw [TextPart.expand, TextPart.expand, Reference.resolve, Reference.resolve, hagree r hp]

theorem Decomposes.expandText_eq_self {s : String} {parts : List TextPart}
    (h : Decomposes s.toList parts) {env : Environment}
    (hunset : ∀ r, .reference r ∈ parts → env.get? r.name = none ∧ r.default = none) :
    expandText env s = s := by
  rw [← String.toList_inj, h.toList_expandText, ← h.flatMap_written]
  refine List.flatMap_congr fun p hp => ?_
  exact TextPart.expand_eq_written fun r hr => hunset r (hr ▸ hp)

/-- A text falls into characters and references in one way only, whatever the environment, and its
expansion puts what each of them resolves to in its place and reads none of that again. -/
theorem expandText_onePass :
    (∀ s, ∃! parts, Decomposes s parts) ∧
    (∀ s parts, Decomposes s parts → parts.flatMap TextPart.written = s) ∧
    (∀ env s parts, Decomposes s.toList parts → ∃ texts,
      List.Forall₂ (TextPart.Resolves env) parts texts ∧
        (expandText env s).toList = texts.flatten) ∧
    ∀ env s parts, Decomposes s.toList parts →
      (∀ r, .reference r ∈ parts → env.get? r.name = none ∧ r.default = none) →
      expandText env s = s := by
  refine ⟨?_, fun _ _ h => h.flatMap_written, ?_, ?_⟩
  · intro s
    refine ⟨textParts s, decomposes_textParts s, fun parts h => ?_⟩
    exact ((decomposes_iff s parts).mp h).symm
  · intro env s parts h
    refine ⟨parts.map (·.expand env), ?_, ?_⟩
    · rw [List.forall₂_map_right_iff, List.forall₂_same]
      exact fun p _ => TextPart.resolves_expand env p
    · rw [h.toList_expandText, List.flatMap_def]
  · intro env s parts h hunset
    exact h.expandText_eq_self hunset

def sampleText : String := "$A$\x7bB:-$A\x7d$\x7bC\x7d$"

def sampleParts : List TextPart :=
  [.reference ⟨"A", none, "$A"⟩, .reference ⟨"B", some "$A", "$\x7bB:-$A\x7d"⟩,
    .reference ⟨"C", none, "$\x7bC\x7d"⟩, .literal '$']

theorem decomposes_sampleText : Decomposes sampleText.toList sampleParts :=
  (decomposes_iff _ _).mpr (by decide +kernel)

theorem expandText_sampleText :
    (∃ texts, List.Forall₂ (TextPart.Resolves [("A", "$\x7bB\x7d")]) sampleParts texts ∧
      (expandText [("A", "$\x7bB\x7d")] sampleText).toList = texts.flatten) ∧
    expandText [("A", "$\x7bB\x7d")] sampleText = "$\x7bB\x7d$A$\x7bC\x7d$" ∧
    expandText [] "$C" = "$C" := by
  obtain ⟨_, _, hresolved, hunset⟩ := expandText_onePass
  refine ⟨hresolved _ _ _ decomposes_sampleText, by decide +kernel, ?_⟩
  refine hunset [] "$C" [.reference ⟨"C", none, "$C"⟩]
    ((decomposes_iff _ _).mpr (by decide +kernel)) ?_
  simp [Association.get?]

end ResolverSetup
