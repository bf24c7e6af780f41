import ResolverSetup.Session.Step
/-! A frozen session never changes again. Until it is frozen, a session sees what its maker does to
the containers that it gave, each as long as the session has not been given another. -/
namespace ResolverSetup

namespace SessionStep
variable {ρ : Type}

def isPreparatory : SessionStep ρ → Bool
  | .freeze => false
  | .assign (.other _ _) => false
  | _ => true

def replacesTable (f : PropertyField) : SessionStep ρ → Bool
  | .assign (.properties h _) => decide (h = f)
  | _ => false

def replacesList (f : ListField) : SessionStep ρ → Bool
  | .assign (.repositories h _) => decide (h = f)
  | _ => false

/-- What a frozen session answers: it refuses assignments by the name, and entries as a table does.
-/
def refusal : SessionStep ρ → Option SessionFault
  | .assign a => some (.readOnly a.name)
  | .attach a => some (.readOnly a.name)
  | .put _ _ _ => some .closedTable
  | .changeTable _ _ => none
  | .changeList _ _ => none
  | .freeze => none

end SessionStep

namespace Session
variable {ρ : Type} {s : Session ρ}

/-! Frozen sessions: nothing that is shared is left. -/

structure Closed (s : Session ρ) : Prop where
  readOnly : s.isReadOnly = true
  frozen : s.frozen = true
  tables : ∀ f, (s.properties f).own.isNone = false
  lists : ∀ f, (s.repositories f).own.isNone = false

theorem view_changeTable {f : PropertyField} (h : (s.properties f).own.isNone = false)
    (g : Table → Table) : (s.onProperties (·.changeSource g) f).view = s.view := by
  have hcurrent : ((s.properties f).changeSource g).current = (s.properties f).current := by
    simp [Holding.current_changeSource, h]
  cases f with
  | user => exact congrArg (fun t => { s.view with userProperties := .owned t }) hcurrent
  | system => exact congrArg (fun t => { s.view with systemProperties := .owned t }) hcurrent
  | config => exact congrArg (fun t => { s.view with configProperties := .owned t }) hcurrent

theorem view_changeList {f : ListField} (h : (s.repositories f).own.isNone = false)
    (g : List ρ → List ρ) : (s.onRepositories (·.changeSource g) f).view = s.view := by
  have hcurrent : ((s.repositories f).changeSource g).current = (s.repositories f).current := by
    simp [Holding.current_changeSource, h]
  cases f with
  | remote => exact congrArg (fun rs => { s.view with remoteRepositories := .owned rs }) hcurrent
  | plugin => exact congrArg (fun rs => { s.view with pluginRepositories := .owned rs }) hcurrent

theorem Closed.freeze_eq (h : s.Closed) : s.freeze = s := by
  rw [freeze, if_pos h.readOnly]

/-- A closed session answers as it must, and a step leaves it closed and as it was to be seen. -/
theorem Closed.step (h : s.Closed) (x : SessionStep ρ) :
    (s.step x).1.Closed ∧ (s.step x).1.view = s.view ∧ (s.step x).2 = x.refusal := by
  cases x with
  | assign a =>
    have hrefused : s.step (.assign a) = (s, some (.readOnly a.name)) := by
      simp [Session.step, assign, h.readOnly, answered]
    rw [hrefused]
    exact ⟨h, rfl, rfl⟩
  | attach a =>
    have hrefused : s.step (.attach a) = (s, some (.readOnly a.name)) := by
      simp [Session.step, attach, h.readOnly, answered]
    rw [hrefused]
    exact ⟨h, rfl, rfl⟩
  | put f k v =>
    have hrefused : s.step (.put f k v) = (s, some .closedTable) := by
      simp [Session.step, putProperty, h.frozen, answered]
    rw [hrefused]
    exact ⟨h, rfl, rfl⟩
  | changeTable f g =>
    refine ⟨⟨?_, ?_, ?_, ?_⟩, view_changeTable (h.tables f) g, rfl⟩
    · cases f <;> exact h.readOnly
    · cases f <;> exact h.frozen
    · intro e
      simp only [Session.step, properties_onProperties]
      split <;> simpa using h.tables e
    · intro e
      simpa [Session.step] using h.lists e
  | changeList f g =>
    refine ⟨⟨?_, ?_, ?_, ?_⟩, view_changeList (h.lists f) g, rfl⟩
    · cases f <;> exact h.readOnly
    · cases f <;> exact h.frozen
    · intro e
      simpa [Session.step] using h.tables e
    · intro e
      simp only [Session.step, repositories_onRepositories]
      split <;> simpa using h.lists e
  | freeze =>
    have hsame : s.step .freeze = (s, none) := by simp [Session.step, h.freeze_eq]
    rw [hsame]
    exact ⟨h, rfl, rfl⟩

theorem Closed.run (h : s.Closed) (xs : List (SessionStep ρ)) :
    (s.run xs).1.Closed ∧ (s.run xs).1.view = s.view ∧
      (s.run xs).2 = xs.map SessionStep.refusal := by
  induction xs generalizing s with
  | nil => exact ⟨h, rfl, rfl⟩
  | cons x xs ih =>
    obtain ⟨hclosed, hview, hanswer⟩ := h.step x
    obtain ⟨hlast, hviews, hanswers⟩ := ih hclosed
    exact ⟨hlast, hviews.trans hview, by rw [Session.run, hanswer, hanswers, List.map_cons]⟩

/-! Sessions that are still prepared: each container is shared until another takes its place. -/

def IsOpen (s : Session ρ) : Prop := s.isReadOnly = false ∧ s.frozen = false

/-- A container is the maker's after a step if it was before and the step puts no other there. -/
theorem IsOpen.step (h : s.IsOpen) {x : SessionStep ρ} (hx : x.isPreparatory = true) :
    (s.step x).1.IsOpen ∧ (s.step x).2 = none ∧
      (∀ f, ((s.step x).1.properties f).own.isNone =
        ((s.properties f).own.isNone && !x.replacesTable f)) ∧
      ∀ f, ((s.step x).1.repositories f).own.isNone =
        ((s.repositories f).own.isNone && !x.replacesList f) := by
  obtain ⟨hopen, hfrozen⟩ := h
  cases x with
  | assign a =>
    cases a with
    | plain p v =>
      have htaken : s.step (.assign (.plain p v)) = (s.setPlain v p, none) := by
        simp [Session.step, assign, hopen, answered]
      rw [htaken]
      refine ⟨?_, rfl, ?_, ?_⟩
      · cases p <;> exact ⟨hopen, hfrozen⟩
      · simp [SessionStep.replacesTable]
      · simp [SessionStep.replacesList]
    | properties e t =>
      have htaken : s.step (.assign (.properties e t)) =
          (s.onProperties (·.replace t) e, none) := by
        simp [Session.step, assign, hopen, answered]
      rw [htaken]
      refine ⟨?_, rfl, ?_, ?_⟩
      · cases e <;> exact ⟨hopen, hfrozen⟩
      · intro f
        by_cases hf : f = e
        · simp [SessionStep.replacesTable, hf]
        · simp [SessionStep.replacesTable, hf, Ne.symm hf]
      · simp [SessionStep.replacesList]
    | repositories e rs =>
      have htaken : s.step (.assign (.repositories e rs)) =
          (s.onRepositories (·.replace rs) e, none) := by
        simp [Session.step, assign, hopen, answered]
      rw [htaken]
      refine ⟨?_, rfl, ?_, ?_⟩
      · cases e <;> exact ⟨hopen, hfrozen⟩
      · simp [SessionStep.replacesTable]
      · intro f
        by_cases hf : f = e
        · simp [SessionStep.replacesList, hf]
        · simp [SessionStep.replacesList, hf, Ne.symm hf]
    | other name v => cases hx
  | attach a =>
    have htaken : s.step (.attach a) = (s.setAttachment a, none) := by
      simp [Session.step, attach, hopen, answered]
    rw [htaken]
    refine ⟨?_, rfl, ?_, ?_⟩
    · cases a <;> exact ⟨hopen, hfrozen⟩
    · simp [SessionStep.replacesTable]
    · simp [SessionStep.replacesList]
  | put e k v =>
    have htaken : s.step (.put e k v) = (s.onProperties (·.change (·.put k v)) e, none) := by
      simp [Session.step, putProperty, hfrozen, answered]
    rw [htaken]
    refine ⟨?_, rfl, ?_, ?_⟩
    · cases e <;> exact ⟨hopen, hfrozen⟩
    · intro f
      rw [properties_onProperties]
      split <;> simp [SessionStep.replacesTable]
    · simp [SessionStep.replacesList]
  | changeTable e g =>
    refine ⟨?_, rfl, ?_, ?_⟩
    · cases e <;> exact ⟨hopen, hfrozen⟩
    · intro f
      simp only [Session.step, properties_onProperties]
      split <;> simp [SessionStep.replacesTable]
    · simp [Session.step, SessionStep.replacesList]
  | changeList e g =>
    refine ⟨?_, rfl, ?_, ?_⟩
    · cases e <;> exact ⟨hopen, hfrozen⟩
    · simp [Session.step, SessionStep.replacesTable]
    · intro f
      simp only [Session.step, repositories_onRepositories]
      split <;> simp [SessionStep.replacesList]
  | freeze => cases hx

theorem IsOpen.run (h : s.IsOpen) {xs : List (SessionStep ρ)}
    (hxs : ∀ x ∈ xs, x.isPreparatory = true) :
    (s.run xs).1.IsOpen ∧ (s.run xs).2 = xs.map (fun _ => none) ∧
      (∀ f, ((s.run xs).1.properties f).own.isNone =
        ((s.properties f).own.isNone && xs.all (!·.replacesTable f))) ∧
      ∀ f, ((s.run xs).1.repositories f).own.isNone =
        ((s.repositories f).own.isNone && xs.all (!·.replacesList f)) := by
  induction xs generalizing s with
  | nil => exact ⟨h, rfl, by simp [Session.run], by simp [Session.run]⟩
  | cons x xs ih =>
    obtain ⟨hopen, hanswer, htables, hlists⟩ := h.step (hxs x List.mem_cons_self)
    obtain ⟨hlast, hanswers, hlastTables, hlastLists⟩ :=
      ih hopen fun y hy => hxs y (List.mem_cons_of_mem x hy)
    refine ⟨hlast, by rw [Session.run, hanswer, hanswers, List.map_cons], fun f => ?_, fun f => ?_⟩
    · rw [Session.run, hlastTables, htables, List.all_cons, Bool.and_assoc]
    · rw [Session.run, hlastLists, hlists, List.all_cons, Bool.and_assoc]

theorem isOpen_sharing (s : Session ρ) (tables : PropertyField → Table)
    (lists : ListField → List ρ) : (s.sharing tables lists).IsOpen := ⟨rfl, rfl⟩

theorem own_properties_sharing (s : Session ρ) (tables : PropertyField → Table)
    (lists : ListField → List ρ) (f : PropertyField) :
    ((s.sharing tables lists).properties f).own = none := by
  cases f <;> rfl

theorem own_repositories_sharing (s : Session ρ) (tables : PropertyField → Table)
    (lists : ListField → List ρ) (f : ListField) :
    ((s.sharing tables lists).repositories f).own = none := by
  cases f <;> rfl

/-! The freeze itself. -/

theorem IsOpen.freeze (h : s.IsOpen) :
    s.freeze.Closed ∧ s.freeze.view = { s.view with mark := .bool true, frozen := true } := by
  rw [Session.freeze, if_neg (by simp [h.1])]
  refine ⟨⟨rfl, rfl, ?_, ?_⟩, rfl⟩
  · intro f
    cases f <;> rfl
  · intro f
    cases f <;> rfl

structure IsSnapshot (last s : Session ρ) : Prop where
  tables : ∀ f, (s.properties f).current = (last.properties f).current
  lists : ∀ f, (s.repositories f).current = (last.repositories f).current
  rest : s.view = { last.view with mark := .bool true, frozen := true }
  freeze_eq : s.freeze = s

theorem Closed.isSnapshot {last : Session ρ} (h : s.Closed)
    (hview : s.view = { last.view with mark := .bool true, frozen := true }) :
    IsSnapshot last s where
  tables f := by
    have htable := congrArg (fun t => (t.properties f).current) hview
    cases f <;> exact htable
  lists f := by
    have hlist := congrArg (fun t => (t.repositories f).current) hview
    cases f <;> exact hlist
  rest := hview
  freeze_eq := h.freeze_eq

/-- After the steps given, the maker's changes show in the containers that no step has replaced. -/
structure ShowsSources (before : List (SessionStep ρ)) (s : Session ρ) : Prop where
  tables : ∀ f g e, ((s.step (.changeTable f g)).1.properties e).current =
    if e = f ∧ ∀ x ∈ before, x.replacesTable f = false then g (s.properties e).current
    else (s.properties e).current
  lists : ∀ f g e, ((s.step (.changeList f g)).1.repositories e).current =
    if e = f ∧ ∀ x ∈ before, x.replacesList f = false then g (s.repositories e).current
    else (s.repositories e).current

theorem showsSources_run_sharing (s : Session ρ) (tables : PropertyField → Table)
    (lists : ListField → List ρ) {before : List (SessionStep ρ)}
    (hbefore : ∀ x ∈ before, x.isPreparatory = true) :
    ShowsSources before ((s.sharing tables lists).run before).1 := by
  obtain ⟨-, -, htables, hlists⟩ := (isOpen_sharing s tables lists).run hbefore
  constructor
  · intro f g e
    have hshared := htables f
    rw [own_properties_sharing] at hshared
    rw [Session.step, properties_onProperties]
    by_cases he : e = f
    · subst he
      simp [Holding.current_changeSource, hshared]
    · simp [he]
  · intro f g e
    have hshared := hlists f
    rw [own_repositories_sharing] at hshared
    rw [Session.step, repositories_onRepositories]
    by_cases he : e = f
    · subst he
      simp [Holding.current_changeSource, hshared]
    · simp [he]

/-- A session over its maker's containers shows what the maker does to each until a step replaces
it. From the first freeze on it is seen as it was then, refuses all changes and hides the maker's.
-/
theorem run_freeze_sharing (s : Session ρ) (tables : PropertyField → Table)
    (lists : ListField → List ρ) (before after : List (SessionStep ρ))
    (hbefore : ∀ x ∈ before, x.isPreparatory = true) :
    ShowsSources before ((s.sharing tables lists).run before).1 ∧
      IsSnapshot ((s.sharing tables lists).run before).1
        ((s.sharing tables lists).run (before ++ .freeze :: after)).1 ∧
      ((s.sharing tables lists).run (before ++ .freeze :: after)).2 =
        before.map (fun _ => none) ++ none :: after.map SessionStep.refusal := by
  obtain ⟨hopen, hanswers, -, -⟩ := (isOpen_sharing s tables lists).run hbefore
  obtain ⟨hclosed, hview⟩ := hopen.freeze
  obtain ⟨hlast, hkept, hrefused⟩ := hclosed.run after
  refine ⟨showsSources_run_sharing s tables lists hbefore, ?_, ?_⟩
  · rw [run_append]
    exact hlast.isSnapshot (hkept.trans hview)
  · rw [run_append, hanswers]
    exact congrArg (fun answers => before.map (fun _ => none) ++ none :: answers) hrefused

def samplePreparation : List (SessionStep String) :=
  [.changeTable .user (·.put (.text "a") (.int 1)),
   .assign (.properties .config [(.text "b", .int 2)]),
   .changeTable .config (·.put (.text "b") (.int 3)),
   .changeList .remote (· ++ ["central"]),
   .put .system (.text "c") (.bool true)]

def sampleAftermath : List (SessionStep String) :=
  [.changeTable .user (·.put (.text "a") (.int 9)),
   .put .config (.text "b") .null,
   .assign (.plain .offline (.bool true)),
   .freeze,
   .changeList .remote (fun _ => [])]

theorem run_freeze_sampleSteps :
    (∀ x ∈ samplePreparation, x.isPreparatory = true) ∧
    let last := ((fresh.sharing (fun _ => []) (fun _ => [])).run samplePreparation).1
    let whole := (fresh.sharing (fun _ => []) (fun _ => [])).run
      (samplePreparation ++ .freeze :: sampleAftermath)
    ((last.step (.changeTable .config fun _ => [])).1.properties .config).current =
        (last.properties .config).current ∧
      ((last.step (.changeTable .system fun _ => [])).1.properties .system).current = [] ∧
      (whole.1.properties .user).current = [(.text "a", .int 1)] ∧
      (whole.1.properties .config).current = [(.text "b", .int 2)] ∧
      (whole.1.repositories .remote).current = ["central"] ∧
      whole.2 = [none, none, none, none, none, none, none, some .closedTable,
        some (.readOnly "offline"), none, none] := by
  have hbefore : ∀ x ∈ samplePreparation, x.isPreparatory = true := by
    simp [samplePreparation, SessionStep.isPreparatory]
  obtain ⟨hshown, hkept, hanswers⟩ :=
    run_freeze_sharing fresh (fun _ => []) (fun _ => []) samplePreparation sampleAftermath hbefore
  refine ⟨hbefore, ?_, ?_, ?_, ?_, ?_, ?_⟩
  · rw [hshown.tables]
    simp [samplePreparation, SessionStep.replacesTable]
  · rw [hshown.tables]
    simp [samplePreparation, SessionStep.replacesTable]
  · rw [hkept.tables]
    rfl
  · rw [hkept.tables]
    rfl
  · rw [hkept.lists]
    rfl
  · rw [hanswers]
    rfl

end Session
end ResolverSetup
