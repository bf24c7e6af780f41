import ResolverSetup.Text.Case.Table
import ResolverSetup.Text.Case.Context
/-! Lower-case forms of characters and of texts. -/
namespace ResolverSetup.Text

def lowerLetter (c : Char) : Char :=
  if c.toNat < 0x80 then c.toLower
  else if c.toNat = 0x130 then 'i'
  else match lowerRows.find? (·.covers c.toNat) with
    | some r => Char.ofNat (c.toNat + r.shift).toNat
    | none => c

/-- A sigma ends a word when a cased letter stands before it and none after it. -/
def endsWord (before after : List Char) : Bool :=
  ((before.dropWhile isSilent).head?.any isCased) &&
    !((after.dropWhile isSilent).head?.any isCased)

def lowerBetween (before : List Char) (c : Char) (after : List Char) : List Char :=
  if c = 'Σ' then [if endsWord before after then 'ς' else 'σ']
  else if c = 'İ' then ['i', '\u0307']
  else [lowerLetter c]

def lowerFrom (before : List Char) : List Char → List Char
  | [] => []
  | c :: s => lowerBetween before c s ++ lowerFrom (c :: before) s

def lower (s : List Char) : List Char := lowerFrom [] s

def lowerText (s : String) : String := String.ofList (lower s.toList)

theorem lowerLetter_of_ascii {c : Char} (h : c.toNat < 0x80) : lowerLetter c = c.toLower := by
  simp [lowerLetter, h]

theorem lowerFrom_of_ascii {s : List Char} (h : ∀ c ∈ s, c.toNat < 0x80) (before : List Char) :
    lowerFrom before s = s.map Char.toLower := by
  induction s generalizing before with
  | nil => rfl
  | cons c s ih =>
    have hc : c.toNat < 0x80 := h c (by simp)
    have hs : c ≠ 'Σ' := by rintro rfl; exact absurd hc (by decide)
    have hi : c ≠ 'İ' := by rintro rfl; exact absurd hc (by decide)
    rw [lowerFrom, ih (fun d hd => h d (by simp [hd]))]
    simp [lowerBetween, hs, hi, lowerLetter_of_ascii hc]

/-- On ASCII text only the letters A to Z change. -/
theorem lower_of_ascii {s : List Char} (h : ∀ c ∈ s, c.toNat < 0x80) :
    lower s = s.map Char.toLower :=
  lowerFrom_of_ascii h []

/-! Comparison of single characters without regard to case. -/

/-- Lower-case letters that share an upper-case form with one another. -/
def foldGroups : List (List Nat) := [
    [0x69, 0x131], [0x73, 0x17F], [0xB5, 0x3BC], [0x345, 0x3B9, 0x1FBE], [0x390, 0x1FD3],
    [0x3B0, 0x1FE3], [0x3B2, 0x3D0], [0x3B5, 0x3F5], [0x3B8, 0x3D1], [0x3BA, 0x3F0], [0x3C0, 0x3D6],
    [0x3C1, 0x3F1], [0x3C2, 0x3C3], [0x3C6, 0x3D5], [0x432, 0x1C80], [0x434, 0x1C81],
    [0x43E, 0x1C82], [0x441, 0x1C83], [0x442, 0x1C84, 0x1C85], [0x44A, 0x1C86], [0x463, 0x1C87],
    [0x1C88, 0xA64B], [0x1E61, 0x1E9B], [0xFB05, 0xFB06]]

def sameLetter (c d : Char) : Bool :=
  let x := lowerLetter c
  let y := lowerLetter d
  x == y || foldGroups.any fun g => g.contains x.toNat && g.contains y.toNat

theorem sameLetter_refl (c : Char) : sameLetter c c = true := by simp [sameLetter]

theorem sameLetter_comm (c d : Char) : sameLetter c d = sameLetter d c := by
  simp only [sameLetter, Bool.and_comm, Bool.beq_comm]

end ResolverSetup.Text
