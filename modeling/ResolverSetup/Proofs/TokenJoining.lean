import ResolverSetup.Proofs.PatternMeaning
/-! The tokens of two texts with a comma between them are those of one and then those of the other,
so that joining tokens by commas can be undone. -/
namespace ResolverSetup.Text

structure IsToken (sep : Char → Bool) (t : List Char) : Prop where
  ne_nil : t ≠ []
  free : ∀ c ∈ t, sep c = false
  first : ∀ c, t.head? = some c → isBlank c = false
  last : ∀ c, t.getLast? = some c → isBlank c = false

section
variable {sep : Char → Bool}

theorem tokensAt_append_cons (s t : List Char) {c : Char} (hc : sep c = true) :
    tokensAt sep (s ++ c :: t) = tokensAt sep s ++ tokensAt sep t := by
  rw [tokensAt_eq, pieces_append_cons s t hc, tokensOf_append]
  rfl

/-- Without a separator there is a single token, unless all is blank. -/
theorem tokensAt_of_free {s t : List Char} (hs : ∀ c ∈ s, sep c = false)
    (ht : Strips isBlank s t) : tokensAt sep s = if t = [] then [] else [t] := by
  have hstrip : trim s = t := (strip_eq_iff isBlank s t).mpr ht
  rw [tokensAt_eq, pieces_of_free hs, tokensOf, List.map_singleton, hstrip]
  by_cases hnil : t = []
  · simp [hnil]
  · simp [hnil]

theorem isToken_of_mem_tokensAt {s t : List Char} (h : t ∈ tokensAt sep s) : IsToken sep t := by
  obtain ⟨hne, ps, hps, p, hp, hstrips⟩ := (mem_tokensAt_iff sep s t).mp h
  obtain ⟨before, after, hsplit, -, -⟩ := hstrips.around
  refine ⟨hne, fun c hc => ?_, hstrips.first, hstrips.last⟩
  have hcp : c ∈ p := by
    rw [hsplit]
    exact List.mem_append_left after (List.mem_append_right before hc)
  exact (hps.free p hp c hcp).2

theorem IsToken.strips {t : List Char} (h : IsToken sep t) : Strips isBlank t t :=
  ⟨⟨[], [], by simp⟩, h.first, h.last⟩

theorem IsToken.tokensAt_eq {t : List Char} (h : IsToken sep t) : tokensAt sep t = [t] := by
  rw [tokensAt_of_free h.free h.strips, if_neg h.ne_nil]

theorem tokensAt_intercalate {c : Char} (hc : sep c = true) {ts : List (List Char)}
    (h : ∀ t ∈ ts, IsToken sep t) : tokensAt sep ([c].intercalate ts) = ts := by
  induction ts with
  | nil => rfl
  | cons t ts ih =>
    have htoken := h t List.mem_cons_self
    have hrest := ih fun u hu => h u (List.mem_cons_of_mem t hu)
    cases ts with
    | nil => rw [List.intercalate_singleton, htoken.tokensAt_eq]
    | cons u us =>
      rw [List.intercalate_cons_cons, List.append_assoc, List.singleton_append,
        tokensAt_append_cons t _ hc, htoken.tokensAt_eq, hrest]
      rfl

end

structure IsCommaToken (t : String) : Prop where
  ne_empty : t ≠ ""
  comma_notMem : ',' ∉ t.toList
  first : ∀ c, t.toList.head? = some c → isBlank c = false
  last : ∀ c, t.toList.getLast? = some c → isBlank c = false

theorem isToken_iff (t : String) : IsToken (· == ',') t.toList ↔ IsCommaToken t := by
  have hempty : t.toList ≠ [] ↔ t ≠ "" := String.toList_eq_nil_iff.not
  constructor
  · intro h
    exact ⟨hempty.mp h.ne_nil, (notMem_iff_beq ',' _).mpr h.free, h.first, h.last⟩
  · intro h
    exact ⟨hempty.mpr h.ne_empty, (notMem_iff_beq ',' _).mp h.comma_notMem, h.first, h.last⟩

theorem isCommaToken_of_mem {s t : String} (h : t ∈ commaTokens s) : IsCommaToken t := by
  rw [mem_commaTokens_iff] at h
  exact (isToken_iff t).mp (isToken_of_mem_tokensAt h)

theorem commaTokens_append (p q : String) :
    commaTokens (p ++ "," ++ q) = commaTokens p ++ commaTokens q := by
  have hjoined : (p ++ "," ++ q).toList = p.toList ++ ',' :: q.toList := by simp
  have hcut := @tokensAt_append_cons (· == ',') p.toList q.toList ',' rfl
  rw [commaTokens, hjoined, hcut, List.map_append]
  rfl

theorem commaTokens_of_free {s t : String} (hs : ',' ∉ s.toList)
    (ht : Strips isBlank s.toList t.toList) : commaTokens s = if t = "" then [] else [t] := by
  rw [commaTokens, tokensAt_of_free ((notMem_iff_beq ',' _).mp hs) ht]
  by_cases hempty : t = ""
  · simp [hempty]
  · have hne : t.toList ≠ [] := by simpa using hempty
    rw [if_neg hne, if_neg hempty, List.map_singleton, String.ofList_toList]

theorem commaTokens_intercalate {ts : List String} (h : ∀ t ∈ ts, IsCommaToken t) :
    commaTokens (",".intercalate ts) = ts := by
  have hcomma : ",".toList = [','] := rfl
  have htokens : ∀ t ∈ ts.map String.toList, IsToken (· == ',') t :=
    List.forall_mem_map.mpr fun t ht => (isToken_iff t).mpr (h t ht)
  have hcut := @tokensAt_intercalate (· == ',') ',' rfl _ htokens
  rw [commaTokens, String.toList_intercalate, hcomma, hcut, List.map_map]
  simp

/-- A text is cut into tokens at its commas: the tokens of two sides follow one another, and what
has no comma is one token without the blanks around it, or none. All that is found can stand as a
token, and tokens that are joined by commas are found again. -/
theorem commaTokens_undo_joining :
    (∀ s, ∀ t ∈ commaTokens s, IsCommaToken t) ∧
    (∀ p q, commaTokens (p ++ "," ++ q) = commaTokens p ++ commaTokens q) ∧
    (∀ s t : String, ',' ∉ s.toList → Strips isBlank s.toList t.toList →
      commaTokens s = if t = "" then [] else [t]) ∧
    (∀ ts, (∀ t ∈ ts, IsCommaToken t) → commaTokens (",".intercalate ts) = ts) ∧
    ∀ s, commaTokens (",".intercalate (commaTokens s)) = commaTokens s := by
  refine ⟨?_, commaTokens_append, ?_, ?_, ?_⟩
  · intro s t ht
    exact isCommaToken_of_mem ht
  · intro s t hs ht
    exact commaTokens_of_free hs ht
  · intro ts h
    exact commaTokens_intercalate h
  · intro s
    exact commaTokens_intercalate fun t ht => isCommaToken_of_mem ht

/-- The blank inside a token stays, and a text of blanks gives no token. -/
theorem commaTokens_sampleTokens :
    commaTokens (",".intercalate ["*", "!my repo"]) = ["*", "!my repo"] ∧
    commaTokens (" \t" ++ "," ++ "\u3000!my repo ") = ["!my repo"] := by
  obtain ⟨_, happend, hfree, hjoin, _⟩ := commaTokens_undo_joining
  have hends : ∀ t ∈ ["*", "!my repo"], Strips isBlank t.toList t.toList := by
    intro t ht
    exact (strip_eq_iff _ _ _).mp (by decide +revert)
  have htokens : ∀ t ∈ ["*", "!my repo"], IsCommaToken t := by
    intro t ht
    exact ⟨by decide +revert, by decide +revert, (hends t ht).first, (hends t ht).last⟩
  have hblank : commaTokens " \t" = [] :=
    hfree " \t" "" (by decide) ((strip_eq_iff _ _ _).mp (by decide))
  have hpadded : commaTokens "\u3000!my repo " = ["!my repo"] :=
    hfree "\u3000!my repo " "!my repo" (by decide) ((strip_eq_iff _ _ _).mp (by decide))
  refine ⟨?_, ?_⟩
  · exact hjoin _ htokens
  · rw [happend, hblank, hpadded]
    rfl

end ResolverSetup.Text
