import ResolverSetup.Text.Case
/-! The comparison of letters without regard to case, as far as ASCII characters are concerned. -/
namespace ResolverSetup.Text

theorem ascii_induction {P : Char → Prop} (h : ∀ n < 0x80, P (Char.ofNat n)) {c : Char}
    (hc : c.toNat < 0x80) : P c := by
  simpa using h c.toNat hc

theorem toNat_toLower_lt {c : Char} (h : c.toNat < 0x80) : c.toLower.toNat < 0x80 :=
  ascii_induction (P := fun c => c.toLower.toNat < 0x80) (by decide) h

theorem toLower_eq_or {c : Char} (h : c.toNat < 0x80) :
    c.toLower = c ∨ c.isAlpha = true ∧ c.toLower.isAlpha = true :=
  ascii_induction
    (P := fun c => c.toLower = c ∨ c.isAlpha = true ∧ c.toLower.isAlpha = true) (by decide) h

/-- No row of the table leads to an ASCII character, that of the Kelvin sign apart. -/
theorem lowerRows_image : ∀ r ∈ lowerRows, r.first = 0x212A ∧ r.last = 0x212A ∧ r.shift = -8383 ∨
    0x80 ≤ r.first + r.shift ∧
      (r.last + r.shift < 0xD800 ∨ 0xDFFF < r.first + r.shift ∧ r.last + r.shift < 0x110000) := by
  decide +kernel

theorem toNat_ofNat {n : Nat} (h : n < 0xD800 ∨ 0xDFFF < n ∧ n < 0x110000) :
    (Char.ofNat n).toNat = n := by
  have hvalid : n.isValidChar := h
  rw [Char.ofNat, dif_pos hvalid]
  rfl

/-- Outside the ASCII range only the Kelvin sign and a dotted capital letter have ASCII letters as
their lower-case forms. -/
theorem lowerLetter_of_not_ascii {c : Char} (h : 0x80 ≤ c.toNat) :
    lowerLetter c = 'i' ∨ lowerLetter c = 'k' ∨ 0x80 ≤ (lowerLetter c).toNat := by
  rw [lowerLetter, if_neg (Nat.not_lt.mpr h)]
  split
  case isTrue => exact .inl rfl
  case isFalse =>
    split
    next r hr =>
      have hcovers : r.covers c.toNat = true := by simpa using List.find?_some hr
      have hrange : r.first ≤ c.toNat ∧ c.toNat ≤ r.last := by
        simp only [LowerRow.covers, Bool.and_eq_true, decide_eq_true_eq] at hcovers
        exact hcovers.1
      rcases lowerRows_image r (List.mem_of_find?_eq_some hr) with ⟨hfirst, hlast, hshift⟩ | himage
      · have hc : c.toNat = 0x212A := by omega
        exact .inr (.inl (by rw [hc, hshift]; rfl))
      · refine .inr (.inr ?_)
        rw [toNat_ofNat (by omega)]
        omega
    next => exact .inr (.inr h)

theorem eq_of_lowerLetter_eq {c d : Char} (hd : d.toNat < 0x80) (hletter : d.isAlpha = false)
    (h : lowerLetter c = d) : c = d := by
  by_cases hc : c.toNat < 0x80
  · rw [lowerLetter_of_ascii hc] at h
    rcases toLower_eq_or hc with hsame | ⟨_, halpha⟩
    · rw [← hsame, h]
    · rw [h, hletter] at halpha
      cases halpha
  · rcases lowerLetter_of_not_ascii (Nat.not_lt.mp hc) with hi | hk | hnot
    · rw [← h, hi] at hletter
      cases hletter
    · rw [← h, hk] at hletter
      cases hletter
    · rw [h] at hnot
      exact absurd hd (Nat.not_lt.mpr hnot)

/-- An ASCII character that is no letter is the same as no other. -/
theorem sameLetter_iff_eq {c : Char} (hc : c.toNat < 0x80) (hletter : c.isAlpha = false)
    (d : Char) : sameLetter c d = true ↔ c = d := by
  constructor
  · intro h
    have hlower : lowerLetter c = c := by
      rw [lowerLetter_of_ascii hc]
      exact (toLower_eq_or hc).resolve_right fun halpha => by simp [hletter] at halpha
    simp only [sameLetter, hlower, Bool.or_eq_true, beq_iff_eq, List.any_eq_true] at h
    rcases h with heq | ⟨g, hg, hmem⟩
    · exact (eq_of_lowerLetter_eq hc hletter heq.symm).symm
    · have hgroups : ∀ g ∈ foldGroups, ∀ n ∈ g, n < 0x80 → (Char.ofNat n).isAlpha = true := by
        decide
      have halpha := hgroups g hg c.toNat (by simpa using (Bool.and_eq_true_iff.mp hmem).1) hc
      rw [Char.ofNat_toNat, hletter] at halpha
      cases halpha
  · rintro rfl
    exact sameLetter_refl c

/-- ASCII characters are the same if their lower-case forms are. -/
theorem sameLetter_ascii {c d : Char} (hc : c.toNat < 0x80) (hd : d.toNat < 0x80) :
    sameLetter c d = true ↔ c.toLower = d.toLower := by
  have hgroups : ∀ g ∈ foldGroups, ∀ m ∈ g, ∀ n ∈ g, m < 0x80 → n < 0x80 → m = n := by decide
  simp only [sameLetter, lowerLetter_of_ascii hc, lowerLetter_of_ascii hd, Bool.or_eq_true,
    beq_iff_eq, List.any_eq_true, Bool.and_eq_true, List.contains_iff_mem]
  constructor
  · rintro (h | ⟨g, hg, hm, hn⟩)
    · exact h
    · have h := hgroups g hg _ hm _ hn (toNat_toLower_lt hc) (toNat_toLower_lt hd)
      exact Char.toNat_inj.mp h
  · exact .inl

end ResolverSetup.Text
