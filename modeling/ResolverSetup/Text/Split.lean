import ResolverSetup.Text.Classes
/-! Cutting a text at separators, and the trimmed tokens that remain. -/
namespace ResolverSetup.Text

def extendFirst (c : Char) : List (List Char) → List (List Char)
  | [] => [[c]]
  | p :: ps => (c :: p) :: ps

/-- The pieces between separators, the empty ones included: one more than there are separators. -/
def pieces (isSeparator : Char → Bool) : List Char → List (List Char)
  | [] => [[]]
  | c :: s =>
    if isSeparator c then [] :: pieces isSeparator s
    else extendFirst c (pieces isSeparator s)

def tokensAt (isSeparator : Char → Bool) (s : List Char) : List (List Char) :=
  ((pieces isSeparator s).map trim).filter (!·.isEmpty)

theorem pieces_ne_nil (sep : Char → Bool) (s : List Char) : pieces sep s ≠ [] := by
  cases s with
  | nil => simp [pieces]
  | cons c s =>
    by_cases h : sep c <;> simp only [pieces, h, ite_true, ite_false, Bool.false_eq_true]
    · simp
    · cases pieces sep s <;> simp [extendFirst]

def commaTokens (s : String) : List String :=
  (tokensAt (· == ',') s.toList).map String.ofList

end ResolverSetup.Text
