import ResolverSetup.Log
import ResolverSetup.Path
import ResolverSetup.Proofs.TextTokens
/-! Paths and their texts: what is read from a text is normal, and the text of a normal path is
read as that path again. -/
namespace ResolverSetup.Path

def IsStep (n : String) : Prop := n ≠ "" ∧ n ≠ "." ∧ '/' ∉ n.toList

def IsNormal (p : Path) : Prop := ∀ n ∈ p.names, IsStep n

theorem isStep_iff (n : String) :
    IsStep n ↔ (n.toList != [] && n.toList != ['.']) = true ∧ ∀ c ∈ n.toList, (c == '/') = false := by
  have hempty : n = "" ↔ n.toList = [] := String.toList_inj.symm
  have hdot : n = "." ↔ n.toList = ['.'] := String.toList_inj.symm
  simp only [IsStep, ne_eq, hempty, hdot, Text.notMem_iff_beq, Bool.and_eq_true, bne_iff_ne,
    and_assoc]

theorem isNormal_ofText (s : String) : (ofText s).IsNormal := by
  intro n hn
  obtain ⟨p, hp, rfl⟩ := List.mem_map.mp hn
  obtain ⟨hpiece, hkept⟩ := List.mem_filter.mp hp
  have hfree := (Text.divided_pieces (· == '/') s.toList).free p hpiece
  rw [isStep_iff, String.toList_ofList]
  exact ⟨hkept, fun c hc => (hfree c hc).2⟩

/-- A slash in front leads nowhere. -/
theorem namesOf_slash_cons (s : List Char) : namesOf ('/' :: s) = namesOf s := rfl

section
variable {ns : List String} (h : ∀ n ∈ ns, IsStep n)
include h

theorem namesOf_intercalate : namesOf ("/".intercalate ns).toList = ns := by
  by_cases hns : ns = []
  · rw [hns]
    rfl
  · have hfree : ∀ p ∈ ns.map String.toList, ∀ c ∈ p, (c == '/') = false :=
      List.forall_mem_map.mpr fun n hn => ((isStep_iff n).mp (h n hn)).2
    have hkept : ∀ p ∈ ns.map String.toList, (p != [] && p != ['.']) = true :=
      List.forall_mem_map.mpr fun n hn => ((isStep_iff n).mp (h n hn)).1
    have hpieces : Text.pieces (· == '/') (['/'].intercalate (ns.map String.toList)) =
        ns.map String.toList := by
      refine Text.pieces_intercalate ?_ ?_ hfree
      · exact beq_self_eq_true '/'
      · simpa using hns
    have hslash : "/".toList = ['/'] := rfl
    rw [namesOf, String.toList_intercalate, hslash, hpieces, List.filter_eq_self.mpr hkept,
      List.map_map]
    simp

/-- Joined names do not begin with a slash. -/
theorem head?_intercalate_ne : ("/".intercalate ns).toList.head? ≠ some '/' := by
  rw [String.toList_intercalate]
  cases ns with
  | nil => simp
  | cons n ns =>
    obtain ⟨hempty, -, hslash⟩ := h n List.mem_cons_self
    obtain ⟨c, cs, hc⟩ := List.exists_cons_of_ne_nil (String.toList_eq_nil_iff.not.mpr hempty)
    have hne : c ≠ '/' := fun he => hslash (by simp [hc, he])
    cases ns <;> simpa [hc, List.intercalate_cons_cons] using hne

end

section
variable {s : List Char} (h : s.head? ≠ some '/')
include h

theorem ne_slash_cons (t : List Char) : s ≠ '/' :: t := by
  rintro rfl
  exact h rfl

theorem rootOf_eq_relative : rootOf s = .relative := by
  simp [rootOf, ne_slash_cons h]

theorem rootOf_slash_cons : rootOf ('/' :: s) = .absolute := by
  simp [rootOf, ne_slash_cons h]

theorem rootOf_slash_slash_cons : rootOf ('/' :: '/' :: s) = .doubled := by
  simp [rootOf, ne_slash_cons h]

end

theorem ofText_text {p : Path} (h : p.IsNormal) : ofText p.text = p := by
  obtain ⟨root, names⟩ := p
  have hnames := namesOf_intercalate h
  have hhead := head?_intercalate_ne h
  cases root with
  | relative =>
    cases names with
    | nil => rfl
    | cons n ns => rw [ofText, text, hnames, rootOf_eq_relative hhead]
  | absolute =>
    have htext : (text ⟨.absolute, names⟩).toList = '/' :: ("/".intercalate names).toList := by
      simp [text]
    rw [ofText, htext, namesOf_slash_cons, hnames, rootOf_slash_cons hhead]
  | doubled =>
    have htext : (text ⟨.doubled, names⟩).toList =
        '/' :: '/' :: ("/".intercalate names).toList := by
      simp [text]
    rw [ofText, htext, namesOf_slash_cons, namesOf_slash_cons, hnames,
      rootOf_slash_slash_cons hhead]

theorem text_ne_empty {p : Path} (h : p.IsNormal) : p.text ≠ "" := by
  intro hempty
  have hp := ofText_text h
  rw [hempty] at hp
  rw [← hp] at hempty
  exact absurd hempty (by decide)

theorem expandHome_eq_self {s : String} (h : s.toList.head? ≠ some '~') (env : Environment)
    (accounts : Accounts) : expandHome env accounts s = .ok s := by
  rw [expandHome.eq_def]
  split
  case h_1 hs => simp [hs] at h
  case h_2 => rfl

/-- A null character stands in the name behind a tilde. -/
def NullNamed (s : String) : Prop :=
  ∃ name rest, s.toList = '~' :: (name ++ rest) ∧ '/' ∉ name ∧ '\x00' ∈ name

theorem nullNamed_iff (s : String) :
    NullNamed s ↔ s.toList.head? = some '~' ∧ '\x00' ∈ s.toList.tail.takeWhile (· != '/') := by
  constructor
  · rintro ⟨name, rest, hs, hslash, hnull⟩
    have hname : ∀ c ∈ name, (c != '/') = true := fun c hc =>
      bne_iff_ne.mpr (ne_of_mem_of_not_mem hc hslash)
    rw [hs, List.tail_cons, List.takeWhile_append_of_pos hname]
    exact ⟨rfl, List.mem_append_left _ hnull⟩
  · rintro ⟨htilde, hnull⟩
    obtain ⟨rest, hs⟩ := List.head?_eq_some_iff.mp htilde
    rw [hs, List.tail_cons] at hnull
    refine ⟨rest.takeWhile (· != '/'), rest.dropWhile (· != '/'), ?_, fun hslash => ?_, hnull⟩
    · rw [List.takeWhile_append_dropWhile, hs]
    · simpa using List.mem_takeWhile_imp hslash

instance (s : String) : Decidable (NullNamed s) := decidable_of_iff' _ (nullNamed_iff s)

theorem home?_error_iff (accounts : Accounts) (env : Environment) (name : List Char)
    (f : AccountFault) : accounts.home? env name = .error f ↔ '\x00' ∈ name := by
  cases f
  rw [Accounts.home?]
  cases name with
  | nil => simp
  | cons c name => by_cases h : '\x00' ∈ c :: name <;> simp [h]

/-- Nothing else keeps a path from being expanded. -/
theorem expandHome_error_iff (env : Environment) (accounts : Accounts) (s : String)
    (f : AccountFault) : expandHome env accounts s = .error f ↔ NullNamed s := by
  rw [nullNamed_iff, expandHome.eq_def]
  split
  case h_1 rest hs => simp [hs, map_eq_error_iff, home?_error_iff]
  case h_2 hs =>
    refine iff_of_false nofun fun h => ?_
    obtain ⟨rest, hrest⟩ := List.head?_eq_some_iff.mp h.1
    exact hs rest hrest

end ResolverSetup.Path
