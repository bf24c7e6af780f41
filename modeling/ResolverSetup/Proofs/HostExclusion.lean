import ResolverSetup.Proofs.LetterCase
import ResolverSetup.Proofs.Pointwise
import ResolverSetup.Proofs.TextTokens
import ResolverSetup.Proxy.Choice
/-! A proxy does not serve the hosts that its patterns become once their stars are filled in. -/
namespace ResolverSetup

namespace HostPattern

/-- A pattern, and the same text with each star replaced by a run that holds no line feed. -/
inductive Filled : List Char → List Char → Prop
  | done : Filled [] []
  | star {run p s : List Char} (hrun : '\n' ∉ run) (h : Filled p s) : Filled ('*' :: p) (run ++ s)
  | letter {c : Char} {p s : List Char} (hc : c ≠ '*') (h : Filled p s) : Filled (c :: p) (c :: s)

def SameText : List Char → List Char → Prop := List.Forall₂ fun c d => Text.sameLetter c d = true

theorem SameText.refl (s : List Char) : SameText s s :=
  List.forall₂_same.mpr fun c _ => Text.sameLetter_refl c

theorem SameText.lineFeed_mem {s t : List Char} (h : SameText s t) (ht : '\n' ∈ t) : '\n' ∈ s := by
  obtain ⟨c, hc, hsame⟩ := exists_of_mem_right h ht
  rw [Text.sameLetter_comm, Text.sameLetter_iff_eq (by decide) (by decide)] at hsame
  exact hsame ▸ hc

theorem mem_restsAfterRun_iff (s rest : List Char) :
    rest ∈ restsAfterRun s ↔ ∃ run, '\n' ∉ run ∧ s = run ++ rest := by
  induction s with
  | nil => simp [restsAfterRun]
  | cons c s ih =>
    rw [restsAfterRun, List.mem_cons]
    constructor
    · rintro (rfl | h)
      · exact ⟨[], List.not_mem_nil, rfl⟩
      · split at h
        next => cases h
        next hc =>
          obtain ⟨run, hrun, rfl⟩ := ih.mp h
          exact ⟨c :: run, by simp [hrun, Ne.symm hc], rfl⟩
    · rintro ⟨run, hrun, hs⟩
      cases run with
      | nil => exact .inl hs.symm
      | cons d run =>
        obtain ⟨rfl, rfl⟩ := List.cons_eq_cons.mp hs
        rw [List.mem_cons, not_or] at hrun
        rw [if_neg (Ne.symm hrun.1)]
        exact .inr (ih.mpr ⟨run, hrun.2, rfl⟩)

theorem covers_anyRun_iff (p : HostPattern) (s : List Char) :
    covers (.anyRun :: p) s = true ↔
      ∃ run rest, '\n' ∉ run ∧ s = run ++ rest ∧ covers p rest = true := by
  simp only [covers, List.any_eq_true, mem_restsAfterRun_iff]
  constructor
  · rintro ⟨rest, ⟨run, hrun, hs⟩, hcovers⟩
    exact ⟨run, rest, hrun, hs, hcovers⟩
  · rintro ⟨run, rest, hrun, hs, hcovers⟩
    exact ⟨rest, ⟨run, hrun, hs⟩, hcovers⟩

theorem covers_letter_iff (c : Char) (p : HostPattern) (s : List Char) :
    covers (.letter c :: p) s = true ↔
      ∃ d rest, s = d :: rest ∧ Text.sameLetter c d = true ∧ covers p rest = true := by
  cases s with
  | nil => simp [covers]
  | cons d s => simp [covers]

/-- Going through the ways to fill the stars finds one if there is one. -/
theorem covers_ofChars_iff (p host : List Char) :
    covers (ofChars p) host = true ↔ ∃ s, Filled p s ∧ SameText s host := by
  induction p generalizing host with
  | nil =>
    constructor
    · intro h
      obtain rfl : host = [] := by simpa [ofChars, covers] using h
      exact ⟨[], .done, .nil⟩
    · rintro ⟨s, hs, hsame⟩
      cases hs
      cases hsame
      rfl
  | cons c p ih =>
    by_cases hc : c = '*'
    · subst hc
      have hitems : ofChars ('*' :: p) = .anyRun :: ofChars p := rfl
      rw [hitems, covers_anyRun_iff]
      constructor
      · rintro ⟨run, rest, hrun, rfl, hcovers⟩
        obtain ⟨s, hs, hsame⟩ := (ih rest).mp hcovers
        exact ⟨run ++ s, .star hrun hs, List.rel_append (SameText.refl run) hsame⟩
      · rintro ⟨_, hs, hsame⟩
        cases hs with
        | star hrun hs =>
          -- the host is cut where the run ends; its part of the host holds no line feed either
          obtain ⟨front, rest, hfront, hrest, rfl⟩ := (forall₂_append_iff _ _ _).mp hsame
          exact ⟨front, rest, fun hlf => hrun (SameText.lineFeed_mem hfront hlf), rfl,
            (ih rest).mpr ⟨_, hs, hrest⟩⟩
        | letter hc _ => exact absurd rfl hc
    · have hitems : ofChars (c :: p) = .letter c :: ofChars p := by simp [ofChars, hc]
      rw [hitems, covers_letter_iff]
      constructor
      · rintro ⟨d, rest, rfl, hletter, hcovers⟩
        obtain ⟨s, hs, hsame⟩ := (ih rest).mp hcovers
        exact ⟨c :: s, .letter hc hs, .cons hletter hsame⟩
      · rintro ⟨_, hs, hsame⟩
        cases hs with
        | star => exact absurd rfl hc
        | letter _ hs =>
          cases hsame with
          | cons hletter hrest => exact ⟨_, _, rfl, hletter, (ih _).mpr ⟨_, hs, hrest⟩⟩

end HostPattern

namespace ProxyRule

theorem excludes_listOf_iff (proxy : Proxy) (hosts : Option String) (host : String) :
    excludes ⟨proxy, HostPattern.listOf hosts⟩ host = true ↔
      ∃ t ∈ Text.tokensAt HostPattern.isSeparator (hosts.getD "").toList,
        ∃ s, HostPattern.Filled t s ∧ HostPattern.SameText s host.toList := by
  simp only [excludes, HostPattern.listOf, List.any_map, List.any_eq_true, Function.comp_apply,
    HostPattern.covers_ofChars_iff]

theorem excludes_none (proxy : Proxy) (host : String) :
    excludes ⟨proxy, HostPattern.listOf none⟩ host = false := rfl

theorem excludes_iff (proxy : Proxy) (hosts : Option String) (host : String) :
    excludes ⟨proxy, HostPattern.listOf hosts⟩ host = true ↔
      ∃ s, hosts = some s ∧ ∃ ps, Text.Divided HostPattern.isSeparator s.toList ps ∧
        ∃ p ∈ ps, ∃ t, t ≠ [] ∧ Text.Strips Text.isBlank p t ∧
          ∃ filled, HostPattern.Filled t filled ∧ HostPattern.SameText filled host.toList := by
  cases hosts with
  | none => simp [excludes_none]
  | some s =>
    simp only [excludes_listOf_iff, Option.getD_some, Text.mem_tokensAt_iff, Option.some.injEq,
      exists_eq_left']
    constructor
    · rintro ⟨t, ⟨hne, ps, hps, p, hp, ht⟩, hfilled⟩
      exact ⟨ps, hps, p, hp, t, hne, ht, hfilled⟩
    · rintro ⟨ps, hps, p, hp, t, hne, ht, hfilled⟩
      exact ⟨t, ⟨hne, ps, hps, p, hp, ht⟩, hfilled⟩

/-- Neither the order of the pieces counts nor how often they occur nor what separates them. -/
theorem excludes_congr {s t : String} {ps qs : List (List Char)}
    (hs : Text.Divided HostPattern.isSeparator s.toList ps)
    (ht : Text.Divided HostPattern.isSeparator t.toList qs) (h : ∀ p, p ∈ ps ↔ p ∈ qs)
    (proxy : Proxy) (host : String) :
    excludes ⟨proxy, HostPattern.listOf (some s)⟩ host =
      excludes ⟨proxy, HostPattern.listOf (some t)⟩ host := by
  have htokens : ∀ x, x ∈ Text.tokensAt HostPattern.isSeparator s.toList ↔
      x ∈ Text.tokensAt HostPattern.isSeparator t.toList := by
    intro x
    rw [Text.tokensAt_eq, Text.tokensAt_eq, (Text.divided_iff _ _ _).mp hs,
      (Text.divided_iff _ _ _).mp ht, Text.mem_tokensOf_iff, Text.mem_tokensOf_iff]
    simp only [h]
  rw [Bool.eq_iff_iff, excludes_listOf_iff, excludes_listOf_iff]
  simp only [Option.getD_some, htokens]

theorem excludes_of_blank {s : String}
    (h : ∀ c ∈ s.toList, HostPattern.isSeparator c = true ∨ Text.isBlank c = true)
    (proxy : Proxy) (host : String) :
    excludes ⟨proxy, HostPattern.listOf (some s)⟩ host = false := by
  have hnil : Text.tokensAt HostPattern.isSeparator s.toList = [] := Text.tokensAt_of_blank h
  rw [← Bool.not_eq_true, excludes_listOf_iff, Option.getD_some, hnil]
  rintro ⟨t, ht, _⟩
  cases ht

/-- A proxy excludes the hosts that its patterns stand for, letter case aside: each star for a run
without line feeds, and all else for itself. -/
theorem excludes_wildcards :
    (∀ proxy hosts host, excludes ⟨proxy, HostPattern.listOf hosts⟩ host = true ↔
      ∃ s, hosts = some s ∧ ∃ ps, Text.Divided HostPattern.isSeparator s.toList ps ∧
        ∃ p ∈ ps, ∃ t, t ≠ [] ∧ Text.Strips Text.isBlank p t ∧
          ∃ filled, HostPattern.Filled t filled ∧ HostPattern.SameText filled host.toList) ∧
    (∀ c d, c.toNat < 0x80 →
      (c.isAlpha = false → (Text.sameLetter c d = true ↔ c = d)) ∧
      (d.toNat < 0x80 → (Text.sameLetter c d = true ↔ c.toLower = d.toLower))) ∧
    (∀ proxy host s t ps qs, Text.Divided HostPattern.isSeparator s.toList ps →
      Text.Divided HostPattern.isSeparator t.toList qs → (∀ p, p ∈ ps ↔ p ∈ qs) →
      excludes ⟨proxy, HostPattern.listOf (some s)⟩ host =
        excludes ⟨proxy, HostPattern.listOf (some t)⟩ host) ∧
    (∀ proxy host, excludes ⟨proxy, HostPattern.listOf none⟩ host = false) ∧
    ∀ proxy host s, (∀ c ∈ s.toList, HostPattern.isSeparator c = true ∨ Text.isBlank c = true) →
      excludes ⟨proxy, HostPattern.listOf (some s)⟩ host = false := by
  refine ⟨excludes_iff, ?_, ?_, excludes_none, fun proxy host s h => excludes_of_blank h proxy host⟩
  · intro c d hc
    exact ⟨fun hletter => Text.sameLetter_iff_eq hc hletter d, fun hd => Text.sameLetter_ascii hc hd⟩
  · intro proxy host s t ps qs hs ht h
    exact excludes_congr hs ht h proxy host

def samplePlainProxy : Proxy := ⟨"http", "proxy.example.com", 8080, none, none, none, none⟩

/-- Two spellings of one list, and a list of nothing. -/
theorem excludes_sampleHosts :
    excludes ⟨samplePlainProxy, HostPattern.listOf (some "*.Example.COM|localhost")⟩
      "build.example.com" = true ∧
    (∀ host, excludes ⟨samplePlainProxy, HostPattern.listOf (some "*.Example.COM|localhost")⟩ host =
      excludes ⟨samplePlainProxy,
        HostPattern.listOf (some "localhost,*.Example.COM,localhost")⟩ host) ∧
    (Text.sameLetter '.' 'x' = true ↔ '.' = 'x') ∧
    (Text.sameLetter 'E' 'e' = true ↔ 'E'.toLower = 'e'.toLower) ∧
    excludes ⟨samplePlainProxy, HostPattern.listOf (some " | ,")⟩ "" = false := by
  obtain ⟨_, hletters, hcongr, _, hblank⟩ := excludes_wildcards
  have hnothing : ∀ c ∈ " | ,".toList, HostPattern.isSeparator c = true ∨ Text.isBlank c = true := by
    simp [HostPattern.isSeparator]
    decide
  refine ⟨by decide, ?_, (hletters '.' 'x' (by decide)).1 (by decide),
    (hletters 'E' 'e' (by decide)).2 (by decide), hblank _ _ _ hnothing⟩
  intro host
  refine hcongr _ _ _ _ ["*.Example.COM".toList, "localhost".toList]
    ["localhost".toList, "*.Example.COM".toList, "localhost".toList]
    ((Text.divided_iff _ _ _).mpr (by decide)) ((Text.divided_iff _ _ _).mpr (by decide)) ?_
  grind

end ProxyRule
end ResolverSetup
