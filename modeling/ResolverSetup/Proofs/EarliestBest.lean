import ResolverSetup.Mirror
/-! The mirror that is chosen is the earliest of the highest ranked ones. The walk over the mirrors
keeps a running best; `Running` ties it to the mirrors already passed. -/
namespace ResolverSetup.Mirror

def rankFor (id : String) (external : Bool) (m : Mirror) : Rank :=
  IdPattern.rank (some m.mirrorOf) id external

def fitsLayout (layout : Value) (m : Mirror) : Bool := LayoutPattern.fits m.mirrorOfLayouts layout

theorem best_eq (ms : List Mirror) (id : String) (layout : Value) (external : Bool) :
    best ms id layout external =
      bestOver (rankFor id external) (fitsLayout layout) none .unmatched ms := rfl

section
variable (rank : Mirror → Rank) (fits : Mirror → Bool)

def Eligible (m : Mirror) : Prop := rank m ≠ .unmatched ∧ fits m = true

instance : DecidablePred (Eligible rank fits) := fun _ => inferInstanceAs (Decidable (_ ∧ _))

structure IsEarliestBest (ms : List Mirror) (m : Mirror) : Prop where
  eligible : Eligible rank fits m
  highest : ∀ n ∈ ms, Eligible rank fits n → (rank n).toNat ≤ (rank m).toNat
  earliest : ∃ front back, ms = front ++ m :: back ∧
    ∀ n ∈ front, Eligible rank fits n → (rank n).toNat < (rank m).toNat

/-- What the walk knows after some mirrors: the best of them, if there is one, and its rank. -/
def Running (seen : List Mirror) (found : Option Mirror) (best : Rank) : Prop :=
  match found with
  | none => best = .unmatched ∧ ∀ m ∈ seen, ¬ Eligible rank fits m
  | some m => best = rank m ∧ IsEarliestBest rank fits seen m

end

section
variable {rank : Mirror → Rank} {fits : Mirror → Bool}

theorem toNat_pos {r : Rank} (h : r ≠ .unmatched) : 0 < r.toNat := by
  cases r with
  | unmatched => exact absurd rfl h
  | wildcard => decide
  | exact => decide

theorem toNat_le_exact (r : Rank) : r.toNat ≤ Rank.exact.toNat := by
  cases r <;> decide

theorem eq_exact_of_toNat_le {r : Rank} (h : Rank.exact.toNat ≤ r.toNat) : r = .exact := by
  cases r with
  | unmatched => exact absurd h (by decide)
  | wildcard => exact absurd h (by decide)
  | exact => rfl

theorem IsEarliestBest.mem {ms : List Mirror} {m : Mirror} (h : IsEarliestBest rank fits ms m) :
    m ∈ ms := by
  obtain ⟨front, back, hms, _⟩ := h.earliest
  simp [hms]

/-- More mirrors behind do not matter as long as none of them ranks higher. -/
theorem IsEarliestBest.append {seen more : List Mirror} {m : Mirror}
    (h : IsEarliestBest rank fits seen m)
    (hmore : ∀ n ∈ more, Eligible rank fits n → (rank n).toNat ≤ (rank m).toNat) :
    IsEarliestBest rank fits (seen ++ more) m := by
  obtain ⟨front, back, hseen, hfront⟩ := h.earliest
  refine ⟨h.eligible, ?_, front, back ++ more, by simp [hseen], hfront⟩
  intro n hn he
  rcases List.mem_append.mp hn with hs | hm
  · exact h.highest n hs he
  · exact hmore n hm he

/-- A mirror that ranks above all that came before it is the earliest best so far. -/
theorem IsEarliestBest.snoc {seen : List Mirror} {m : Mirror} (hm : Eligible rank fits m)
    (hseen : ∀ n ∈ seen, Eligible rank fits n → (rank n).toNat < (rank m).toNat) :
    IsEarliestBest rank fits (seen ++ [m]) m := by
  refine ⟨hm, ?_, seen, [], rfl, hseen⟩
  intro n hn he
  rcases List.mem_append.mp hn with hs | hl
  · exact Nat.le_of_lt (hseen n hs he)
  · have hnm : n = m := by simpa using hl
    exact Nat.le_of_eq (by rw [hnm])

theorem Running.start : Running rank fits [] none .unmatched :=
  ⟨rfl, by intro m hm; cases hm⟩

/-- All that has been passed ranks at most as high as the running best. -/
theorem Running.toNat_le {seen : List Mirror} {found : Option Mirror} {best : Rank}
    (h : Running rank fits seen found best) {n : Mirror} (hn : n ∈ seen)
    (he : Eligible rank fits n) : (rank n).toNat ≤ best.toNat := by
  cases found with
  | none => exact absurd he (h.2 n hn)
  | some m =>
    rw [h.1]
    exact h.2.highest n hn he

/-- A mirror that is passed over ranks no higher than the running best, or is not eligible. -/
theorem Running.skip {seen : List Mirror} {found : Option Mirror} {best : Rank}
    (h : Running rank fits seen found best) {m : Mirror}
    (hm : Eligible rank fits m → (rank m).toNat ≤ best.toNat) :
    Running rank fits (seen ++ [m]) found best := by
  cases found with
  | none =>
    refine ⟨h.1, ?_⟩
    intro n hn he
    rcases List.mem_append.mp hn with hs | hl
    · exact h.2 n hs he
    · have hnm : n = m := by simpa using hl
      have hle := hm (hnm ▸ he)
      have hpos := toNat_pos (hnm ▸ he).1
      rw [h.1] at hle
      exact absurd hle (Nat.not_le_of_lt hpos)
  | some w =>
    refine ⟨h.1, h.2.append ?_⟩
    intro n hn he
    have hnm : n = m := by simpa using hn
    rw [← h.1, hnm]
    exact hm (hnm ▸ he)

/-- A mirror that fits and ranks above the running best takes its place. -/
theorem Running.take {seen : List Mirror} {found : Option Mirror} {best : Rank}
    (h : Running rank fits seen found best) {m : Mirror} (hrank : best.toNat < (rank m).toNat)
    (hfits : fits m = true) : Running rank fits (seen ++ [m]) (some m) (rank m) := by
  have hne : rank m ≠ .unmatched := by
    intro hu
    rw [hu] at hrank
    exact absurd hrank (Nat.not_lt_zero _)
  refine ⟨rfl, .snoc ⟨hne, hfits⟩ ?_⟩
  intro n hn he
  exact Nat.lt_of_le_of_lt (h.toNat_le hn he) hrank

/-- The walk over the remaining mirrors ends with the best of all. -/
theorem bestOver_running (ms : List Mirror) :
    ∀ {seen : List Mirror} {found : Option Mirror} {best : Rank},
      Running rank fits seen found best →
      ∃ last, Running rank fits (seen ++ ms) (bestOver rank fits found best ms) last := by
  induction ms with
  | nil =>
    intro seen found best h
    exact ⟨best, by simpa [bestOver] using h⟩
  | cons m ms ih =>
    intro seen found best h
    have happ : seen ++ m :: ms = (seen ++ [m]) ++ ms := by simp
    rw [bestOver, happ]
    split
    case isTrue hskip =>
      refine ih (h.skip ?_)
      intro he
      simpa [he.2] using hskip
    case isFalse htake =>
      have hrf : best.toNat < (rank m).toNat ∧ fits m = true := by simpa using htake
      have hm := h.take hrf.1 hrf.2
      split
      case isTrue hexact =>
        -- nothing behind an exact match can rank higher, so the walk may stop here
        refine ⟨rank m, rfl, hm.2.append ?_⟩
        intro n _ _
        rw [hexact]
        exact toNat_le_exact (rank n)
      case isFalse _ => exact ih hm

/-- The walk does not notice mirrors that are not eligible. -/
theorem bestOver_filter (ms : List Mirror) (found : Option Mirror) (best : Rank) :
    bestOver rank fits found best (ms.filter fun m => decide (Eligible rank fits m)) =
      bestOver rank fits found best ms := by
  induction ms generalizing found best with
  | nil => rfl
  | cons m ms ih =>
    by_cases he : Eligible rank fits m
    · simp only [he, decide_true, List.filter_cons_of_pos, bestOver, ih]
    · have hskip : ((rank m).toNat ≤ best.toNat || !fits m) = true := by
        by_cases hr : rank m = .unmatched
        · simp [hr, Rank.toNat]
        · have hf : fits m ≠ true := fun hf => he ⟨hr, hf⟩
          simp [hf]
      simp only [he, decide_false, Bool.false_eq_true, not_false_eq_true,
        List.filter_cons_of_neg, bestOver, hskip, if_true, ih]

theorem bestOver_insert {others : List Mirror} (h : ∀ m ∈ others, ¬ Eligible rank fits m)
    (front back : List Mirror) (found : Option Mirror) (best : Rank) :
    bestOver rank fits found best (front ++ others ++ back) =
      bestOver rank fits found best (front ++ back) := by
  have hnil : others.filter (fun m => decide (Eligible rank fits m)) = [] := by
    simpa [List.filter_eq_nil_iff] using h
  rw [← bestOver_filter (front ++ others ++ back), ← bestOver_filter (front ++ back)]
  simp [hnil]

theorem best_running (id : String) (layout : Value) (external : Bool) (ms : List Mirror) :
    ∃ last, Running (rankFor id external) (fitsLayout layout) ms (best ms id layout external) last := by
  rw [best_eq]
  exact bestOver_running ms Running.start

theorem best_isEarliestBest {id : String} {layout : Value} {external : Bool} {ms : List Mirror}
    {m : Mirror} (h : best ms id layout external = some m) :
    IsEarliestBest (rankFor id external) (fitsLayout layout) ms m := by
  obtain ⟨last, hrun⟩ := best_running id layout external ms
  rw [h] at hrun
  exact hrun.2

theorem best_eq_none_iff (id : String) (layout : Value) (external : Bool) (ms : List Mirror) :
    best ms id layout external = none ↔
      ∀ m ∈ ms, ¬ Eligible (rankFor id external) (fitsLayout layout) m := by
  constructor
  · intro h
    obtain ⟨last, hrun⟩ := best_running id layout external ms
    rw [h] at hrun
    exact hrun.2
  · intro h
    cases hb : best ms id layout external with
    | none => rfl
    | some m =>
      have hm := best_isEarliestBest hb
      exact absurd hm.eligible (h m hm.mem)

/-- Where an exact match is eligible, an exact match is the best. -/
theorem best_exact {id : String} {layout : Value} {external : Bool} {ms : List Mirror} {m : Mirror}
    (hm : m ∈ ms) (he : Eligible (rankFor id external) (fitsLayout layout) m)
    (hexact : rankFor id external m = .exact) :
    ∃ w, best ms id layout external = some w ∧ rankFor id external w = .exact := by
  cases hb : best ms id layout external with
  | none => exact absurd he ((best_eq_none_iff id layout external ms).mp hb m hm)
  | some w =>
    have hle := (best_isEarliestBest hb).highest m hm he
    rw [hexact] at hle
    exact ⟨w, rfl, eq_exact_of_toNat_le hle⟩

end

theorem choose_of_id_empty (ms : List Mirror) (layout : Value) (url : Option String) :
    choose ms "" layout url = .ok none := rfl

theorem choose_of_external {id : String} (hid : id ≠ "") {url : Option String} {external : Bool}
    (hurl : Url.isExternalText url = .ok external) (ms : List Mirror) (layout : Value) :
    choose ms id layout url = .ok (best ms id layout external) := by
  have hempty : id.isEmpty = false := by simpa using hid
  simp [choose, hempty, hurl, Except.map]

/-- The choice is the earliest of the highest ranked eligible mirrors, wherever others stand. -/
theorem choose_earliestBest (id : String) (layout : Value) (url : Option String) (external : Bool)
    (hurl : Url.isExternalText url = .ok external) :
    (∀ ms, ∃ answer, choose ms id layout url = .ok answer ∧
      (answer = none ↔
        id = "" ∨ ∀ m ∈ ms, ¬ Eligible (rankFor id external) (fitsLayout layout) m) ∧
      ∀ m, answer = some m →
        IsEarliestBest (rankFor id external) (fitsLayout layout) ms m) ∧
    (∀ front others back,
      (∀ m ∈ others, ¬ Eligible (rankFor id external) (fitsLayout layout) m) →
      choose (front ++ others ++ back) id layout url = choose (front ++ back) id layout url) ∧
    ∀ ms, id ≠ "" →
      ∀ m ∈ ms, Eligible (rankFor id external) (fitsLayout layout) m →
        rankFor id external m = .exact →
        ∃ w, choose ms id layout url = .ok (some w) ∧ rankFor id external w = .exact := by
  by_cases hid : id = ""
  · subst hid
    refine ⟨?_, ?_, ?_⟩
    · intro ms
      exact ⟨none, rfl, by simp, by simp⟩
    · intro front others back _
      rw [choose_of_id_empty, choose_of_id_empty]
    · intro ms hne
      exact absurd rfl hne
  · refine ⟨?_, ?_, ?_⟩
    · intro ms
      refine ⟨_, choose_of_external hid hurl ms layout, ?_, fun m h => best_isEarliestBest h⟩
      simpa [hid] using best_eq_none_iff id layout external ms
    · intro front others back h
      rw [choose_of_external hid hurl, choose_of_external hid hurl, best_eq, best_eq,
        bestOver_insert h]
    · intro ms _ m hm he hexact
      obtain ⟨w, hw, hwexact⟩ := best_exact hm he hexact
      exact ⟨w, by rw [choose_of_external hid hurl, hw], hwexact⟩

def sampleMirrors : List Mirror :=
  [⟨"odd", "https://odd.example.com", "*", .text "default", some "legacy", false⟩,
    ⟨"all", "https://all.example.com", "*", .text "default", none, false⟩,
    ⟨"own", "https://own.example.com", "!other, central", .text "", none, false⟩]

theorem choose_sampleMirrors :
    Url.isExternalText (some "https://repo.example.com/maven") = .ok true ∧
    (∃ w, choose sampleMirrors "central" (.text "default") (some "https://repo.example.com/maven") =
      .ok (some w) ∧ rankFor "central" true w = .exact) ∧
    choose sampleMirrors "central" (.text "default") (some "https://repo.example.com/maven") =
      choose sampleMirrors.tail "central" (.text "default")
        (some "https://repo.example.com/maven") := by
  have hurl : Url.isExternalText (some "https://repo.example.com/maven") = .ok true := by rfl
  obtain ⟨_, hinsert, hexact⟩ := choose_earliestBest "central" (.text "default")
    (some "https://repo.example.com/maven") true hurl
  refine ⟨hurl, hexact sampleMirrors (by decide) sampleMirrors[2] (by simp) ?_ (by decide), ?_⟩
  · decide
  · exact hinsert [] [sampleMirrors[0]] sampleMirrors.tail (by decide)

end ResolverSetup.Mirror
