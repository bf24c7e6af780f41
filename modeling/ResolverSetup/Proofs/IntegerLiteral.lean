import ResolverSetup.Number.Reader
import ResolverSetup.Proofs.TextTokens
/-! Which texts are read as whole numbers: blanks around a sign, if there is one, and decimal digits
with single underscores between two of them. -/
namespace ResolverSetup

namespace Text

/-- No digit is a blank. -/
theorem isBlank_of_digitValue? {c : Char} {d : Nat} (h : digitValue? c = some d) :
    isBlank c = false := by
  rw [← Bool.not_eq_true, isBlank, within_iff]
  rintro ⟨r, hr, hlow, hhigh⟩
  rw [digitValue?] at h
  split at h
  next hdigit =>
    have happart : ∀ r ∈ blankRanges, r.2 < 48 ∨ 57 < r.1 := by decide
    have hcase := happart r hr
    simp only [Char.isDigit, Bool.and_eq_true, decide_eq_true_eq, ge_iff_le,
      UInt32.le_iff_toNat_le] at hdigit
    change 48 ≤ c.toNat ∧ c.toNat ≤ 57 at hdigit
    omega
  next =>
    obtain ⟨z, hz, _⟩ := Option.map_eq_some_iff.mp h
    have hrange := List.find?_some hz
    have happart : ∀ z ∈ digitZeros, ∀ r ∈ blankRanges, r.2 < z ∨ z + 9 < r.1 := by decide
    have hcase := happart z (List.mem_of_find?_eq_some hz) r hr
    simp only [Bool.and_eq_true, decide_eq_true_eq] at hrange
    omega

end Text

inductive DigitGroups : List Char → List Nat → Prop
  | last {c : Char} {d : Nat} (h : Text.digitValue? c = some d) : DigitGroups [c] [d]
  | digit {c : Char} {d : Nat} {s : List Char} {ds : List Nat} (h : Text.digitValue? c = some d)
      (hs : DigitGroups s ds) : DigitGroups (c :: s) (d :: ds)
  | underscore {c : Char} {d : Nat} {s : List Char} {ds : List Nat}
      (h : Text.digitValue? c = some d) (hs : DigitGroups s ds) :
      DigitGroups (c :: '_' :: s) (d :: ds)

inductive Sign : List Char → Bool → Prop
  | absent : Sign [] false
  | plus : Sign ['+'] false
  | minus : Sign ['-'] true

def IntegerLiteral (s : List Char) (n : Int) : Prop :=
  ∃ before sign body after negative ds,
    s = before ++ (sign ++ body) ++ after ∧
    (∀ c ∈ before, isNumberBlank c = true) ∧ (∀ c ∈ after, isNumberBlank c = true) ∧
    Sign sign negative ∧ DigitGroups body ds ∧ ds.length ≤ maxDigits ∧
    n = signed negative (ofDigits 10 ds)

namespace DigitGroups
variable {s : List Char} {ds : List Nat}

theorem head?_eq (h : DigitGroups s ds) : ∃ c d, s.head? = some c ∧ Text.digitValue? c = some d := by
  cases h with
  | last h => exact ⟨_, _, rfl, h⟩
  | digit h _ => exact ⟨_, _, rfl, h⟩
  | underscore h _ => exact ⟨_, _, rfl, h⟩

theorem getLast?_eq (h : DigitGroups s ds) :
    ∃ c d, s.getLast? = some c ∧ Text.digitValue? c = some d := by
  induction h with
  | last h => exact ⟨_, _, rfl, h⟩
  | digit _ hs ih =>
    obtain ⟨c, d, hc, hd⟩ := ih
    exact ⟨c, d, by simp [List.getLast?_cons, hc], hd⟩
  | underscore _ hs ih =>
    obtain ⟨c, d, hc, hd⟩ := ih
    exact ⟨c, d, by simp [List.getLast?_cons, hc], hd⟩

end DigitGroups

/-- What stands behind a digit and is no underscore begins with a digit. -/
theorem groupedDigits?_eq_some_iff (s : List Char) (ds : List Nat) :
    groupedDigits? s = some ds ↔ DigitGroups s ds := by
  constructor
  · intro h
    fun_induction groupedDigits? s generalizing ds with
    | case1 => cases h
    | case2 c s hc => cases h
    | case3 c d hc =>
      cases h
      exact .last hc
    | case4 c d r hc ih =>
      obtain ⟨es, hes, rfl⟩ := Option.map_eq_some_iff.mp h
      exact .underscore hc (ih es hes)
    | case5 c d r hne hunderscore hc ih =>
      obtain ⟨es, hes, rfl⟩ := Option.map_eq_some_iff.mp h
      exact .digit hc (ih es hes)
  · intro h
    induction h with
    | last h => simp [groupedDigits?, h]
    | underscore h hs ih => rw [groupedDigits?.eq_4 _ _ _ h, ih]; rfl
    | @digit c d s ds h hs ih =>
      obtain ⟨c', d', hc', hd'⟩ := hs.head?_eq
      have hne : s ≠ [] := by
        rintro rfl
        cases hc'
      have hunderscore : ∀ r, s ≠ '_' :: r := by
        rintro r rfl
        cases hc'
        cases hd'
      rw [groupedDigits?.eq_5 _ _ _ h hne hunderscore, ih]
      rfl

theorem takeSign_eq (s : List Char) :
    ∃ sign, s = sign ++ (takeSign s).2 ∧ Sign sign (takeSign s).1 := by
  fun_cases takeSign s with
  | case1 s => exact ⟨_, rfl, .minus⟩
  | case2 s => exact ⟨_, rfl, .plus⟩
  | case3 => exact ⟨_, rfl, .absent⟩

/-- No digit is a sign, so nothing of the digits is taken for one. -/
theorem takeSign_append {sign body : List Char} {negative : Bool} {ds : List Nat}
    (hsign : Sign sign negative) (hbody : DigitGroups body ds) :
    takeSign (sign ++ body) = (negative, body) := by
  cases hsign with
  | plus => rfl
  | minus => rfl
  | absent =>
    obtain ⟨c, d, hc, hd⟩ := hbody.head?_eq
    rw [List.nil_append, takeSign]
    · rintro s rfl
      cases hc
      cases hd
    · rintro s rfl
      cases hc
      cases hd

theorem isNumberBlank_of_digitValue? {c : Char} {d : Nat} (h : Text.digitValue? c = some d) :
    isNumberBlank c = false := by
  rw [isNumberBlank, Text.isBlank_of_digitValue? h, Bool.false_and]

theorem strip_literal {before sign body after : List Char} {negative : Bool} {ds : List Nat}
    (hbefore : ∀ c ∈ before, isNumberBlank c = true) (hafter : ∀ c ∈ after, isNumberBlank c = true)
    (hsign : Sign sign negative) (hbody : DigitGroups body ds) :
    Text.strip isNumberBlank (before ++ (sign ++ body) ++ after) = sign ++ body := by
  obtain ⟨c, d, hc, hd⟩ := hbody.head?_eq
  obtain ⟨c', d', hc', hd'⟩ := hbody.getLast?_eq
  have hne : body ≠ [] := by
    rintro rfl
    cases hc
  refine Text.strip_append hbefore hafter (by simp [hne]) ?_ ?_
  · intro a ha
    cases hsign with
    | plus =>
      cases ha
      decide
    | minus =>
      cases ha
      decide
    | absent =>
      cases hc.symm.trans ha
      exact isNumberBlank_of_digitValue? hd
  · intro a ha
    rw [List.getLast?_append, hc', Option.some_or] at ha
    cases ha
    exact isNumberBlank_of_digitValue? hd'

theorem readInt?_eq_some_iff (s : List Char) (n : Int) :
    readInt? s = some n ↔ IntegerLiteral s n := by
  constructor
  · intro h
    obtain ⟨before, after, hs, hbefore, hafter⟩ := Text.eq_append_strip isNumberBlank s
    obtain ⟨sign, hstrip, hsign⟩ := takeSign_eq (Text.strip isNumberBlank s)
    rw [readInt?] at h
    cases hds : groupedDigits? (takeSign (Text.strip isNumberBlank s)).2 with
    | none => simp [hds] at h
    | some ds =>
      simp only [hds] at h
      split at h
      next hlength =>
        refine ⟨before, sign, _, after, _, ds, ?_, hbefore, hafter, hsign,
          (groupedDigits?_eq_some_iff _ _).mp hds, hlength, (Option.some.inj h).symm⟩
        rw [← hstrip]
        exact hs
      next => cases h
  · rintro ⟨before, sign, body, after, negative, ds, rfl, hbefore, hafter, hsign, hbody, hlength,
      rfl⟩
    rw [readInt?, strip_literal hbefore hafter hsign hbody, takeSign_append hsign hbody]
    simp only [(groupedDigits?_eq_some_iff _ _).mpr hbody, hlength, if_true]

end ResolverSetup
