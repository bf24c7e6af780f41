import ResolverSetup.Logging.Setup
/-! A logger that is set up again and again: each known level counts until the next one, while the
handlers stay those of the first setup that could make some. -/
namespace ResolverSetup

def upperText? (s : String) : Option String :=
  (s.toList.mapM upperAscii?).map fun cs => String.ofList cs.flatten

theorem Level.find?_name_eq_some_iff (t : String) (v : Level) :
    Level.all.find? (·.name == t) = some v ↔ v.name = t := by
  constructor
  · intro h
    simpa using List.find?_some h
  · intro h
    subst h
    cases v <;> rfl

theorem Level.ofText?_eq_some_iff (s : String) (v : Level) :
    Level.ofText? s = some v ↔ upperText? s = some v.name := by
  rw [Level.ofText?, upperText?]
  cases s.toList.mapM upperAscii? with
  | none => simp
  | some cs =>
    rw [Option.bind_some, Option.map_some, Option.some.injEq, Level.find?_name_eq_some_iff]
    exact eq_comm

/-! The place of a log file. -/

namespace Place

theorem notMem_names_step {p : Place} (h : ".." ∉ p.names) (n : String) :
    ".." ∉ (p.step n).names := by
  rw [step]
  split
  case isTrue =>
    rw [parent.eq_def]
    split
    · exact h
    · simp
    · exact fun hmem => h (List.dropLast_subset _ hmem)
  case isFalse hn => simp [child, h, Ne.symm hn]

/-- Names that lead upwards are followed and do not stay. -/
theorem notMem_names_ofPath (p : Path) : ".." ∉ (ofPath p).names := by
  have hsteps : ∀ (ns : List String) (q : Place), ".." ∉ q.names →
      ".." ∉ (ns.foldl step q).names := by
    intro ns
    induction ns with
    | nil => exact fun q hq => hq
    | cons n ns ih => exact fun q hq => ih (q.step n) (notMem_names_step hq n)
  exact hsteps p.names (start p) (by simp [start])

end Place

namespace FileTree

theorem walk_eq {t : FileTree} {ns : List String} (h : ".." ∉ ns) {p q : Place}
    (hwalk : t.walk p ns = .ok q) : q = ⟨p.anchor, p.names ++ ns⟩ := by
  induction ns generalizing p with
  | nil =>
    cases hwalk
    simp
  | cons n ns ih =>
    have hn : n ≠ ".." := fun he => h (by simp [he])
    have hns : ".." ∉ ns := fun hmem => h (List.mem_cons_of_mem n hmem)
    rw [walk] at hwalk
    split at hwalk
    · cases hwalk
    · cases hwalk
    · split at hwalk
      · cases hwalk
      · split at hwalk
        · cases hwalk
        · rw [ih hns hwalk, Place.step, if_neg hn, Place.child]
          simp

/-- What is opened is what the names say. -/
theorem openAt_eq {t : FileTree} {p q : Place} (h : ".." ∉ p.names) (hopen : t.openAt p = .ok q) :
    q = p := by
  rw [openAt] at hopen
  split at hopen
  · cases hopen
  · cases hwalk : t.walk ⟨p.anchor, []⟩ p.names with
    | error o => simp [hwalk] at hopen
    | ok r =>
      have hr := walk_eq h hwalk
      simp only [hwalk] at hopen
      split at hopen
      · cases hopen
      · cases hopen
        exact hr

end FileTree

/-! A single setup. -/

namespace LoggerSetup

def logFile (s : LoggerSetup) : Place :=
  .ofPath ((Path.ofText s.directory).join (.ofText (s.name ++ ".log")))

def handlers (s : LoggerSetup) : List Handler :=
  (if s.toFile then [⟨.file s.logFile s.maxBytes s.backupCount, s.format⟩] else []) ++
    if s.toConsole then [⟨.console, s.format⟩] else []

/-- A setup that makes handlers for a logger without any: its level is known, its lines have a
field, and they are to go somewhere. -/
structure Makes (s : LoggerSetup) : Prop where
  level : ∃ v, Level.ofText? s.level = some v
  format : s.format.isValid = true
  target : s.toFile = true ∨ s.toConsole = true

theorem handlers_eq_nil_iff (s : LoggerSetup) :
    s.handlers = [] ↔ ¬ (s.toFile = true ∨ s.toConsole = true) := by
  rw [handlers]
  cases s.toFile <;> cases s.toConsole <;> simp

/-- There is never more than one handler of a kind. -/
theorem countP_handlers_le (s : LoggerSetup) :
    s.handlers.countP (·.target == .console) ≤ 1 ∧
      s.handlers.countP (·.target != .console) ≤ 1 := by
  rw [handlers]
  cases s.toFile <;> cases s.toConsole <;> simp

end LoggerSetup

namespace Logging

theorem openFile_eq {tree tree' : FileTree} {s : LoggerSetup} {p : Place}
    (h : openFile tree s = (tree', .ok p)) : p = s.logFile := by
  rw [openFile] at h
  split at h
  · cases h
  · split at h
    next hopen =>
      cases h
      exact FileTree.openAt_eq (Place.notMem_names_ofPath _) hopen
    next => cases h

/-- Handlers are made as asked for, or there is a fault of the pattern or of the file. -/
theorem makeHandlers_cases (tree : FileTree) (s : LoggerSetup) :
    (s.format.isValid = false ∧
      (makeHandlers tree s).2 = .error (.noField s.format.pattern)) ∨
    (s.format.isValid = true ∧ (makeHandlers tree s).2 = .ok s.handlers) ∨
    ∃ f, (makeHandlers tree s).2 = .error (.file f) := by
  rw [makeHandlers]
  cases hvalid : s.format.isValid with
  | false => exact .inl ⟨rfl, rfl⟩
  | true =>
    refine .inr ?_
    cases hfile : s.toFile with
    | false => exact .inl ⟨rfl, by simp [LoggerSetup.handlers, hfile, consoleHandlers]⟩
    | true =>
      cases hopen : openFile tree s with
      | mk tree' r =>
        cases r with
        | error f => exact .inr ⟨f, rfl⟩
        | ok p =>
          refine .inl ⟨rfl, ?_⟩
          simp [LoggerSetup.handlers, hfile, consoleHandlers, openFile_eq hopen]

theorem find_put (l : Logging) (n m : String) (x : Logger) :
    (l.put n x).find m = if key n = key m then x else l.find m := by
  rw [find, put, Association.get?_put]
  split <;> rfl

theorem find_register (l : Logging) (n m : String) : (l.register n).find m = l.find m := by
  rw [register, find_put]
  split
  case isTrue h => rw [find, find, h]
  case isFalse => rfl

/-- What a setup makes of a logger, and what it answers. -/
inductive Sets (s : LoggerSetup) (x : Logger) : Logger → Except SetupFault Logger → Prop
  | unknownLevel (h : Level.ofText? s.level = none) : Sets s x x (.error (.unknownLevel s.level))
  | equipped {v : Level} (h : Level.ofText? s.level = some v) (hx : x.handlers ≠ []) :
    Sets s x { x with level := some v } (.ok { x with level := some v })
  | noField {v : Level} (h : Level.ofText? s.level = some v) (hx : x.handlers = [])
      (hformat : s.format.isValid = false) :
    Sets s x { x with level := some v } (.error (.noField s.format.pattern))
  | noFile {v : Level} (h : Level.ofText? s.level = some v) (hx : x.handlers = [])
      (f : FileTree.Fault) : Sets s x { x with level := some v } (.error (.file f))
  | made {v : Level} (h : Level.ofText? s.level = some v) (hx : x.handlers = [])
      (hformat : s.format.isValid = true) : Sets s x ⟨some v, s.handlers⟩ (.ok ⟨some v, s.handlers⟩)

theorem setup_of_equipped {l : Logging} {s : LoggerSetup} {v : Level}
    (h : Level.ofText? s.level = some v) (hx : (l.find s.name).handlers ≠ []) :
    l.setup s = (l.put s.name { l.find s.name with level := some v },
      .ok { l.find s.name with level := some v }) := by
  simp [setup, h, hx]

theorem setup_of_fault {l : Logging} {s : LoggerSetup} {v : Level} {f : SetupFault}
    (h : Level.ofText? s.level = some v) (hx : (l.find s.name).handlers = [])
    (hmake : (makeHandlers l.tree s).2 = .error f) :
    ((l.setup s).1.find s.name) = { l.find s.name with level := some v } ∧
      (l.setup s).2 = .error f := by
  generalize hresult : makeHandlers l.tree s = result at hmake
  obtain ⟨tree, answer⟩ := result
  subst hmake
  simp [setup, h, hx, hresult, find_put]

theorem setup_of_made {l : Logging} {s : LoggerSetup} {v : Level} {hs : List Handler}
    (h : Level.ofText? s.level = some v) (hx : (l.find s.name).handlers = [])
    (hmake : (makeHandlers l.tree s).2 = .ok hs) :
    ((l.setup s).1.find s.name) = ⟨some v, hs⟩ ∧ (l.setup s).2 = .ok ⟨some v, hs⟩ := by
  generalize hresult : makeHandlers l.tree s = result at hmake
  obtain ⟨tree, answer⟩ := result
  subst hmake
  simp [setup, h, hx, hresult, find_put]

theorem setup_of_unknown (l : Logging) {s : LoggerSetup} (h : Level.ofText? s.level = none) :
    l.setup s = (l.register s.name, .error (.unknownLevel s.level)) := by
  simp [setup, h]

theorem sets_setup (l : Logging) (s : LoggerSetup) :
    Sets s (l.find s.name) ((l.setup s).1.find s.name) (l.setup s).2 := by
  cases hlevel : Level.ofText? s.level with
  | none =>
    rw [setup_of_unknown l hlevel, find_register]
    exact .unknownLevel hlevel
  | some v =>
    by_cases hx : (l.find s.name).handlers = []
    · obtain ⟨hformat, hmake⟩ | ⟨hformat, hmake⟩ | ⟨f, hmake⟩ := makeHandlers_cases l.tree s
      · obtain ⟨hfind, hanswer⟩ := setup_of_fault hlevel hx hmake
        rw [hfind, hanswer]
        exact .noField hlevel hx hformat
      · obtain ⟨hfind, hanswer⟩ := setup_of_made hlevel hx hmake
        rw [hfind, hanswer]
        exact .made hlevel hx hformat
      · obtain ⟨hfind, hanswer⟩ := setup_of_fault hlevel hx hmake
        rw [hfind, hanswer]
        exact .noFile hlevel hx f
    · rw [setup_of_equipped hlevel hx, find_put, if_pos rfl]
      exact .equipped hlevel hx

namespace Sets
variable {s : LoggerSetup} {x y : Logger} {a : Except SetupFault Logger}

theorem level_eq (h : Sets s x y a) : y.level = (Level.ofText? s.level).or x.level := by
  cases h with
  | unknownLevel h => rw [h, Option.none_or]
  | equipped h _ => rw [h, Option.some_or]
  | noField h _ _ => rw [h, Option.some_or]
  | noFile h _ _ => rw [h, Option.some_or]
  | made h _ _ => rw [h, Option.some_or]

theorem handlers_eq_of_ne_nil (h : Sets s x y a) (hx : x.handlers ≠ []) :
    y.handlers = x.handlers := by
  cases h with
  | unknownLevel _ => rfl
  | equipped _ _ => rfl
  | noField _ _ _ => rfl
  | noFile _ _ _ => rfl
  | made _ hnil _ => exact absurd hnil hx

theorem handlers_eq_of_not_makes (h : Sets s x y a) (hs : ¬ s.Makes) : y.handlers = x.handlers := by
  cases h with
  | unknownLevel _ => rfl
  | equipped _ _ => rfl
  | noField _ _ _ => rfl
  | noFile _ _ _ => rfl
  | made h hnil hformat =>
    have htarget : ¬ (s.toFile = true ∨ s.toConsole = true) :=
      fun htarget => hs ⟨⟨_, h⟩, hformat, htarget⟩
    rw [hnil]
    exact s.handlers_eq_nil_iff.mpr htarget

theorem handlers_eq_of_makes (h : Sets s x y a) (hs : s.Makes) (hx : x.handlers = [])
    (ha : ∀ f, a ≠ .error (.file f)) : y.handlers = s.handlers := by
  obtain ⟨v, hv⟩ := hs.level
  cases h with
  | unknownLevel h => simp [h] at hv
  | equipped _ hne => exact absurd hx hne
  | noField _ _ hformat => simp [hs.format] at hformat
  | noFile _ _ f => exact absurd rfl (ha f)
  | made _ _ _ => rfl

end Sets

/-! One setup after the other. -/

/-- Sets loggers up in turn. Besides the loggers in the end there is what each setup answers. -/
def setupAll (l : Logging) : List LoggerSetup → Logging × List (Except SetupFault Logger)
  | [] => (l, [])
  | s :: ss => (((l.setup s).1.setupAll ss).1, (l.setup s).2 :: ((l.setup s).1.setupAll ss).2)

theorem setupAll_append (l : Logging) (ss ts : List LoggerSetup) :
    l.setupAll (ss ++ ts) = (((l.setupAll ss).1.setupAll ts).1,
      (l.setupAll ss).2 ++ ((l.setupAll ss).1.setupAll ts).2) := by
  induction ss generalizing l with
  | nil => rfl
  | cons s ss ih =>
    rw [List.cons_append, setupAll, ih]
    rfl

/-- What each setup of a logger keeps, all of them keep. -/
theorem setupAll_induction {P : Logger → Prop} {name : String} {ss : List LoggerSetup}
    (hname : ∀ s ∈ ss, s.name = name) (hstep : ∀ s ∈ ss, ∀ x y a, Sets s x y a → P x → P y)
    {l : Logging} (h : P (l.find name)) : P ((l.setupAll ss).1.find name) := by
  induction ss generalizing l with
  | nil => exact h
  | cons s ss ih =>
    have hs : s.name = name := hname s List.mem_cons_self
    have hset := sets_setup l s
    rw [hs] at hset
    have hnext := hstep s List.mem_cons_self _ _ _ hset h
    exact ih (fun t ht => hname t (List.mem_cons_of_mem s ht))
      (fun t ht => hstep t (List.mem_cons_of_mem s ht)) hnext

section
variable {l : Logging} {name : String} {ss : List LoggerSetup} (hname : ∀ s ∈ ss, s.name = name)
include hname

theorem level_setupAll_of_unknown (h : ∀ s ∈ ss, Level.ofText? s.level = none) :
    ((l.setupAll ss).1.find name).level = (l.find name).level := by
  refine setupAll_induction (P := fun x => x.level = (l.find name).level) hname ?_ rfl
  intro s hs x y a hset hx
  rw [hset.level_eq, h s hs, Option.none_or, hx]

theorem handlers_setupAll_of_ne_nil (h : (l.find name).handlers ≠ []) :
    ((l.setupAll ss).1.find name).handlers = (l.find name).handlers := by
  refine setupAll_induction (P := fun x => x.handlers = (l.find name).handlers) hname ?_ rfl
  intro s _ x y a hset hx
  rw [hset.handlers_eq_of_ne_nil (by rw [hx]; exact h), hx]

theorem handlers_setupAll_of_not_makes (h : ∀ s ∈ ss, ¬ s.Makes) :
    ((l.setupAll ss).1.find name).handlers = (l.find name).handlers := by
  refine setupAll_induction (P := fun x => x.handlers = (l.find name).handlers) hname ?_ rfl
  intro s hs x y a hset hx
  rw [hset.handlers_eq_of_not_makes (h s hs), hx]

end

/-- A run of setups cut at one of them. -/
theorem setupAll_cut (l : Logging) (before : List LoggerSetup) (s : LoggerSetup)
    (after : List LoggerSetup) :
    (l.setupAll (before ++ s :: after)).1 = (((l.setupAll before).1.setup s).1.setupAll after).1 ∧
      ((l.setupAll before).1.setup s).2 ∈ (l.setupAll (before ++ s :: after)).2 := by
  rw [setupAll_append, setupAll]
  exact ⟨rfl, List.mem_append_right _ List.mem_cons_self⟩

section
variable {l : Logging} {name : String} {before after : List LoggerSetup} {s : LoggerSetup}
  (hname : ∀ t ∈ before ++ s :: after, t.name = name)
include hname

theorem level_setupAll_cut {v : Level} (hs : Level.ofText? s.level = some v)
    (hafter : ∀ t ∈ after, Level.ofText? t.level = none) :
    ((l.setupAll (before ++ s :: after)).1.find name).level = some v := by
  obtain ⟨_, hrest⟩ := List.forall_mem_append.mp hname
  obtain ⟨hown, hlater⟩ := List.forall_mem_cons.mp hrest
  have hset := sets_setup (l.setupAll before).1 s
  rw [hown] at hset
  rw [(l.setupAll_cut before s after).1, level_setupAll_of_unknown hlater hafter, hset.level_eq, hs,
    Option.some_or]

theorem handlers_setupAll_cut (hfree : (l.find name).handlers = [])
    (hfiles : ∀ f, .error (.file f) ∉ (l.setupAll (before ++ s :: after)).2) (hs : s.Makes)
    (hbefore : ∀ t ∈ before, ¬ t.Makes) :
    ((l.setupAll (before ++ s :: after)).1.find name).handlers = s.handlers := by
  obtain ⟨hearlier, hrest⟩ := List.forall_mem_append.mp hname
  obtain ⟨hown, hlater⟩ := List.forall_mem_cons.mp hrest
  obtain ⟨hcut, hmem⟩ := l.setupAll_cut before s after
  have hstill : ((l.setupAll before).1.find name).handlers = [] := by
    rw [handlers_setupAll_of_not_makes hearlier hbefore, hfree]
  have hopened : ∀ f, ((l.setupAll before).1.setup s).2 ≠ .error (.file f) :=
    fun f hf => hfiles f (hf ▸ hmem)
  have hset := sets_setup (l.setupAll before).1 s
  rw [hown] at hset
  have hmade := hset.handlers_eq_of_makes hs hstill hopened
  have hne : s.handlers ≠ [] := fun hnil => s.handlers_eq_nil_iff.mp hnil hs.target
  rw [hcut, handlers_setupAll_of_ne_nil hlater (by rw [hmade]; exact hne), hmade]

end

/-- Either no setup makes handlers or there is a first one that does. -/
theorem forall_not_makes_or_first (ss : List LoggerSetup) :
    (∀ s ∈ ss, ¬ s.Makes) ∨
      ∃ before s after, ss = before ++ s :: after ∧ s.Makes ∧ ∀ t ∈ before, ¬ t.Makes := by
  induction ss with
  | nil => exact .inl (by simp)
  | cons s ss ih =>
    by_cases hs : s.Makes
    · exact .inr ⟨[], s, ss, rfl, hs, by simp⟩
    · cases ih with
      | inl hnone => exact .inl (List.forall_mem_cons.mpr ⟨hs, hnone⟩)
      | inr hfirst =>
        obtain ⟨before, t, after, hsplit, ht, hbefore⟩ := hfirst
        exact .inr ⟨s :: before, t, after, by rw [hsplit, List.cons_append], ht,
          List.forall_mem_cons.mpr ⟨hs, hbefore⟩⟩

/-- A logger has the level of its last setup with a known one, and the handlers of the first that
makes any: not more than one for a file, and then one for the console. A level is known by its name
in any case of letters. A setup with an unknown level changes no logger, and one whose pattern is
refused sets the level only. -/
theorem setupAll_lastLevel_firstHandlers (l : Logging) (name : String) (calls : List LoggerSetup)
    (hname : ∀ s ∈ calls, s.name = name) (hfree : (l.find name).handlers = [])
    (hfiles : ∀ f, .error (.file f) ∉ (l.setupAll calls).2) :
    (∀ before s after v, calls = before ++ s :: after → Level.ofText? s.level = some v →
      (∀ t ∈ after, Level.ofText? t.level = none) →
      ((l.setupAll calls).1.find name).level = some v) ∧
    ((∀ s ∈ calls, Level.ofText? s.level = none) →
      ((l.setupAll calls).1.find name).level = (l.find name).level) ∧
    (∀ before s after, calls = before ++ s :: after → s.Makes → (∀ t ∈ before, ¬ t.Makes) →
      ((l.setupAll calls).1.find name).handlers = s.handlers) ∧
    ((∀ s ∈ calls, ¬ s.Makes) → ((l.setupAll calls).1.find name).handlers = []) ∧
    (((l.setupAll calls).1.find name).handlers.countP (·.target == .console) ≤ 1 ∧
      ((l.setupAll calls).1.find name).handlers.countP (·.target != .console) ≤ 1) ∧
    (∀ text v, Level.ofText? text = some v ↔ upperText? text = some v.name) ∧
    (∀ (k : Logging) s, Level.ofText? s.level = none →
      (k.setup s).2 = .error (.unknownLevel s.level) ∧ ∀ n, (k.setup s).1.find n = k.find n) ∧
    ∀ (k : Logging) s v, Level.ofText? s.level = some v → (k.find s.name).handlers = [] →
      s.format.isValid = false → (k.setup s).2 = .error (.noField s.format.pattern) ∧
        (k.setup s).1.find s.name = { k.find s.name with level := some v } := by
  have hfirst : ∀ before s after, calls = before ++ s :: after → s.Makes →
      (∀ t ∈ before, ¬ t.Makes) → ((l.setupAll calls).1.find name).handlers = s.handlers := by
    intro before s after hcalls hs hbefore
    subst hcalls
    exact handlers_setupAll_cut hname hfree hfiles hs hbefore
  have hnone : (∀ s ∈ calls, ¬ s.Makes) → ((l.setupAll calls).1.find name).handlers = [] := by
    intro h
    rw [handlers_setupAll_of_not_makes hname h, hfree]
  refine ⟨?_, level_setupAll_of_unknown hname, hfirst, hnone, ?_, Level.ofText?_eq_some_iff, ?_, ?_⟩
  · intro before s after v hcalls hs hafter
    subst hcalls
    exact level_setupAll_cut hname hs hafter
  · obtain h | ⟨before, s, after, hcalls, hs, hbefore⟩ := forall_not_makes_or_first calls
    · simp [hnone h]
    · rw [hfirst before s after hcalls hs hbefore]
      exact s.countP_handlers_le
  · intro k s hs
    rw [setup_of_unknown k hs]
    exact ⟨rfl, fun n => k.find_register s.name n⟩
  · intro k s v hs hx hformat
    have hmake : (makeHandlers k.tree s).2 = .error (.noField s.format.pattern) := by
      rw [makeHandlers, hformat]
      rfl
    obtain ⟨hfind, hanswer⟩ := setup_of_fault hs hx hmake
    exact ⟨hanswer, hfind⟩

def consoleSetup (level : String) (pattern : Option String) : LoggerSetup :=
  ⟨"app", "logs", level, pattern, none, false, true, 0, 0⟩

def fileSetup (level : String) : LoggerSetup :=
  ⟨"app", "logs/../old", level, none, none, true, true, 100, 2⟩

def sampleSetups : List LoggerSetup :=
  [consoleSetup "loud" none, consoleSetup "error" (some "plain"), fileSetup "debug",
    consoleSetup "ınfo" none, consoleSetup "" none]

def sampleHandlers : List Handler :=
  [⟨.file ⟨.above 0, ["old", "app.log"]⟩ 100 2, .standard⟩, ⟨.console, .standard⟩]

def opened : Except SetupFault Logger → Bool
  | .error (.file _) => false
  | _ => true

theorem file_notMem_of_opened {answers : List (Except SetupFault Logger)}
    (h : answers.all opened = true) (f : FileTree.Fault) : .error (.file f) ∉ answers :=
  fun hmem => absurd (List.all_eq_true.mp h _ hmem) Bool.false_ne_true

theorem setupAll_sampleSetups :
    ((setupAll ⟨[], .empty⟩ sampleSetups).1.find "app").level = some .info ∧
    ((setupAll ⟨[], .empty⟩ sampleSetups).1.find "app").handlers = sampleHandlers ∧
    ((consoleSetup "error" (some "plain")).format.isValid = false ∧
      (setup ⟨[], .empty⟩ (consoleSetup "error" (some "plain"))).2 = .error (.noField "plain")) := by
  have hfiles := file_notMem_of_opened
    (show (setupAll ⟨[], .empty⟩ sampleSetups).2.all opened = true by decide +kernel)
  have hinvalid : (consoleSetup "error" (some "plain")).format.isValid = false := by decide +kernel
  have hloud : ¬ (consoleSetup "loud" none).Makes := by
    intro h
    have hnone : Level.ofText? "loud" = none := by decide +kernel
    obtain ⟨v, hv⟩ := h.level
    exact absurd (hnone.symm.trans hv) nofun
  have hplain : ¬ (consoleSetup "error" (some "plain")).Makes :=
    fun h => absurd (hinvalid.symm.trans h.format) Bool.false_ne_true
  have hmakes : (fileSetup "debug").Makes :=
    ⟨⟨.debug, by decide +kernel⟩, by decide +kernel, .inl rfl⟩
  obtain ⟨hlevel, _, hhandlers, _, _, _, _, hrefused⟩ :=
    setupAll_lastLevel_firstHandlers ⟨[], .empty⟩ "app" sampleSetups (by decide) rfl hfiles
  refine ⟨?_, ?_, hinvalid, ?_⟩
  · exact hlevel (sampleSetups.take 3) (consoleSetup "ınfo" none) [consoleSetup "" none] .info rfl
      (by decide +kernel) (List.forall_mem_singleton.mpr (by decide +kernel))
  · have hfirst := hhandlers (sampleSetups.take 2) (fileSetup "debug") (sampleSetups.drop 3) rfl
      hmakes (List.forall_mem_cons.mpr ⟨hloud, List.forall_mem_singleton.mpr hplain⟩)
    exact hfirst.trans (by decide +kernel)
  · exact (hrefused _ _ .error (by decide +kernel) rfl hinvalid).1

/-- A known level and a console are not enough for a first setup to make its handlers. -/
theorem not_forall_setupAll_firstHandlers :
    ¬ ∀ (l : Logging) (name : String) (calls : List LoggerSetup), (∀ s ∈ calls, s.name = name) →
      (l.find name).handlers = [] → (∀ f, .error (.file f) ∉ (l.setupAll calls).2) →
      ∀ before s after, calls = before ++ s :: after →
        (∃ v, Level.ofText? s.level = some v) ∧ (s.toFile = true ∨ s.toConsole = true) →
        (∀ t ∈ before, ¬ ((∃ v, Level.ofText? t.level = some v) ∧
          (t.toFile = true ∨ t.toConsole = true))) →
        ((l.setupAll calls).1.find name).handlers = s.handlers := by
  intro h
  have hfiles := file_notMem_of_opened
    (show (setupAll ⟨[], .empty⟩ [consoleSetup "error" (some "plain")]).2.all opened = true by
      decide +kernel)
  have hlevel : ∃ v, Level.ofText? "error" = some v := ⟨.error, by decide +kernel⟩
  have hfound := h ⟨[], .empty⟩ "app" [consoleSetup "error" (some "plain")] (by decide) rfl hfiles
    [] _ [] rfl ⟨hlevel, .inr rfl⟩ (by simp)
  have hnone : ((setupAll ⟨[], .empty⟩ [consoleSetup "error" (some "plain")]).1.find
      "app").handlers = [] := by decide +kernel
  rw [hnone] at hfound
  exact absurd hfound (by decide +kernel)

end Logging
end ResolverSetup
