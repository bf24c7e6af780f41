import ResolverSetup.Listener.Step
/-! Chains within chains deliver like one flat chain of the listeners at their leaves, as long as
there are words for what fails there; and a chain made out of another leaves that one as it is. -/
namespace ResolverSetup

namespace Listener

mutual
def leaves : Listener → List Listener
  | .chain members => leavesOf members
  | l => [l]

def leavesOf : List Listener → List Listener
  | [] => []
  | l :: ls => leaves l ++ leavesOf ls
end

def isChain : Listener → Bool
  | .chain _ => true
  | _ => false

/-- What an event at a leaf comes to: the leaf sees it once, and if it fails there is one warning
with its kind right behind. -/
def leafTrace (e : Event) : Listener → List Occurrence
  | .custom _ name none | .custom _ name (some (.unwordable _)) => [.seen name e.type]
  | .custom label name (some (.text s)) =>
    [.seen name e.type,
      .logged (.warning .events ("Repository listener " ++ label ++ " failed: " ++ s))]
  | .reporter logger =>
    match e.failure with
    | none => [.logged ⟨e.level, logger, e.type ++ ": " ++ e.target⟩]
    | some (.text s) =>
      [.logged ⟨e.level, logger, e.type ++ ": " ++ e.target ++ " (" ++ s ++ ")"⟩]
    | some (.unwordable (.text s)) =>
      [.logged (.warning .events
        ("Repository listener LoggingRepositoryListener failed: " ++ s))]
    | some (.unwordable (.unwordable _)) => []
  | .chain _ => []

/-- Whether a leaf does not fail, or there are words for its failure. A reporter fails where there
are none for the failure that is told in the event. -/
def isWorded (e : Event) : Listener → Bool
  | .custom _ _ (some (.unwordable _)) => false
  | .reporter _ =>
    match e.failure with
    | some (.unwordable (.unwordable _)) => false
    | _ => true
  | _ => true

end Listener

namespace Delivery

@[simp] theorem quiet_andThen (x : Delivery) : quiet.andThen x = x := rfl

@[simp] theorem andThen_quiet (x : Delivery) : x.andThen quiet = x := by
  obtain ⟨happened, failure⟩ := x
  cases failure with
  | none => simp [andThen, quiet]
  | some f => rfl

theorem andThen_of_none {x : Delivery} (h : x.failure = none) (y : Delivery) :
    x.andThen y = ⟨x.happened ++ y.happened, y.failure⟩ := by
  rw [andThen, h]

theorem andThen_of_isSome {x : Delivery} (h : x.failure.isSome) (y : Delivery) :
    x.andThen y = x := by
  obtain ⟨f, hf⟩ := Option.isSome_iff_exists.mp h
  rw [andThen, hf]

theorem andThen_assoc (x y z : Delivery) : (x.andThen y).andThen z = x.andThen (y.andThen z) := by
  cases hx : x.failure with
  | some f => simp only [andThen_of_isSome (Option.isSome_of_eq_some hx)]
  | none =>
    cases hy : y.failure with
    | some g => simp [andThen, hx, hy]
    | none => simp [andThen, hx, hy]

/-- A delivery breaks off, where another one goes on with more or breaks off too. -/
structure CutShort (x y : Delivery) : Prop where
  fails : x.failure.isSome
  le : x.happened <+: y.happened
  lt : y.failure = none → x.happened.length < y.happened.length

namespace CutShort
variable {x y : Delivery}

theorem refl (h : x.failure.isSome) : x.CutShort x where
  fails := h
  le := List.prefix_rfl
  lt hnone := by simp [hnone] at h

theorem andThen (h : x.CutShort y) (z w : Delivery) : (x.andThen z).CutShort (y.andThen w) := by
  rw [andThen_of_isSome h.fails]
  cases hy : y.failure with
  | some f =>
    rw [andThen_of_isSome (Option.isSome_of_eq_some hy)]
    exact h
  | none =>
    rw [andThen_of_none hy]
    refine ⟨h.fails, h.le.trans (List.prefix_append _ _), fun _ => ?_⟩
    have hlt := h.lt hy
    rw [List.length_append]
    omega

theorem after (h : x.CutShort y) {z : Delivery} (hz : z.failure = none) :
    (z.andThen x).CutShort (z.andThen y) := by
  rw [andThen_of_none hz, andThen_of_none hz]
  refine ⟨h.fails, (List.prefix_append_right_inj _).mpr h.le, fun hnone => ?_⟩
  have hlt := h.lt hnone
  simp only [List.length_append]
  omega

/-- To tell a failure takes an entry in the log, and not to tell it is a failure. -/
theorem told (h : x.CutShort y) (label : String) : x.CutShort (y.told label) := by
  rw [Delivery.told]
  split
  next => exact h
  next s _ =>
    refine ⟨h.fails, h.le.trans (List.prefix_append _ _), fun _ => ?_⟩
    have hle := h.le.length_le
    rw [List.length_append, List.length_singleton]
    omega
  next => exact ⟨h.fails, h.le, nofun⟩

end CutShort
end Delivery

namespace Listener
open Delivery

theorem deliverAll_append (e : Event) (ls ms : List Listener) :
    deliverAll e (ls ++ ms) = (deliverAll e ls).andThen (deliverAll e ms) := by
  induction ls with
  | nil => rw [List.nil_append, deliverAll, quiet_andThen]
  | cons l ls ih => rw [List.cons_append, deliverAll, deliverAll, ih, andThen_assoc]

theorem deliverAll_cons (e : Event) (l : Listener) (ls : List Listener) :
    deliverAll e (l :: ls) = (deliverAll e [l]).andThen (deliverAll e ls) :=
  deliverAll_append e [l] ls

theorem deliverAll_singleton (e : Event) (l : Listener) :
    deliverAll e [l] = (deliver e l).told l.label := by
  rw [deliverAll, deliverAll, andThen_quiet]

theorem deliverAll_leaf (e : Event) {l : Listener} (h : l.isChain = false) :
    (deliverAll e [l]).happened = leafTrace e l ∧
      (deliverAll e [l]).failure.isNone = l.isWorded e := by
  rw [deliverAll_singleton]
  match l with
  | .custom _ _ none | .custom _ _ (some (.text _)) | .custom _ _ (some (.unwordable _)) =>
    exact ⟨rfl, rfl⟩
  | .reporter logger =>
    rw [deliver, Event.message, leafTrace, isWorded]
    match e.failure with
    | none | some (.text _) | some (.unwordable (.text _))
    | some (.unwordable (.unwordable _)) => exact ⟨rfl, rfl⟩

mutual
theorem isChain_of_mem_leaves {l m : Listener} (h : m ∈ l.leaves) : m.isChain = false := by
  cases l with
  | custom label name failure =>
    rw [List.mem_singleton.mp h]
    rfl
  | reporter logger =>
    rw [List.mem_singleton.mp h]
    rfl
  | chain ms => exact isChain_of_mem_leavesOf (by rwa [leaves] at h)

theorem isChain_of_mem_leavesOf {ls : List Listener} {m : Listener} (h : m ∈ leavesOf ls) :
    m.isChain = false := by
  cases ls with
  | nil => cases h
  | cons l ls =>
    rw [leavesOf, List.mem_append] at h
    rcases h with hl | hls
    · exact isChain_of_mem_leaves hl
    · exact isChain_of_mem_leavesOf hls
end

/-- Leaves that fail with words get the event one after the other. -/
theorem deliverAll_of_isWorded {e : Event} {ls : List Listener} (h : ∀ l ∈ ls, l.isChain = false)
    (hwords : ∀ l ∈ ls, l.isWorded e = true) :
    deliverAll e ls = ⟨ls.flatMap (leafTrace e), none⟩ := by
  induction ls with
  | nil => rfl
  | cons l ls ih =>
    rw [List.forall_mem_cons] at h hwords
    obtain ⟨htrace, hworded⟩ := deliverAll_leaf e h.1
    have hfailure : (deliverAll e [l]).failure = none := by
      rw [← Option.isNone_iff_eq_none, hworded]
      exact hwords.1
    rw [deliverAll_cons, andThen_of_none hfailure, ih h.2 hwords.2, htrace, List.flatMap_cons]

/-- The first leaf that fails without words is the last one that gets the event. -/
theorem deliverAll_of_not_isWorded {e : Event} {front back : List Listener} {l : Listener}
    (h : ∀ m ∈ front ++ [l], m.isChain = false) (hfront : ∀ m ∈ front, m.isWorded e = true)
    (hl : l.isWorded e = false) :
    (deliverAll e (front ++ l :: back)).happened = (front ++ [l]).flatMap (leafTrace e) ∧
      (deliverAll e (front ++ l :: back)).failure.isSome := by
  rw [List.forall_mem_append, List.forall_mem_singleton] at h
  obtain ⟨htrace, hworded⟩ := deliverAll_leaf e h.2
  have hfailure : (deliverAll e [l]).failure.isSome := by
    rw [← Option.not_isNone, hworded, hl]
    rfl
  rw [deliverAll_append, deliverAll_of_isWorded h.1 hfront, deliverAll_cons,
    andThen_of_isSome hfailure, andThen_of_none rfl, List.flatMap_append, List.flatMap_singleton,
    htrace]
  exact ⟨rfl, hfailure⟩

mutual
theorem deliverAll_leaves {e : Event} {l : Listener} (h : ∀ m ∈ l.leaves, m.isWorded e = true) :
    deliverAll e l.leaves = deliverAll e [l] := by
  cases l with
  | custom label name failure => rfl
  | reporter logger => rfl
  | chain ms =>
    -- nothing fails in the chain, so there is nothing to be told about it
    have hms := deliverAll_leavesOf h
    have hflat := deliverAll_of_isWorded (fun m => isChain_of_mem_leavesOf) h
    rw [leaves, deliverAll_singleton, deliver, ← hms, hflat]
    rfl

theorem deliverAll_leavesOf {e : Event} {ls : List Listener}
    (h : ∀ m ∈ leavesOf ls, m.isWorded e = true) :
    deliverAll e (leavesOf ls) = deliverAll e ls := by
  cases ls with
  | nil => rfl
  | cons l ls =>
    rw [leavesOf, List.forall_mem_append] at h
    rw [leavesOf, deliverAll_append, deliverAll_leaves h.1, deliverAll_leavesOf h.2,
      ← deliverAll_cons]
end

mutual
theorem cutShort_leaves {e : Event} {l : Listener} (h : ¬ ∀ m ∈ l.leaves, m.isWorded e = true) :
    (deliverAll e l.leaves).CutShort (deliverAll e [l]) := by
  have hleaf : l.isChain = false → l.leaves = [l] → (deliverAll e [l]).failure.isSome := by
    intro hl hleaves
    rw [hleaves, List.forall_mem_singleton, ← (deliverAll_leaf e hl).2] at h
    simpa [← Option.ne_none_iff_isSome] using h
  cases l with
  | custom label name failure => exact .refl (hleaf rfl rfl)
  | reporter logger => exact .refl (hleaf rfl rfl)
  | chain ms =>
    rw [leaves, deliverAll_singleton, deliver]
    exact (cutShort_leavesOf h).told _

theorem cutShort_leavesOf {e : Event} {ls : List Listener}
    (h : ¬ ∀ m ∈ leavesOf ls, m.isWorded e = true) :
    (deliverAll e (leavesOf ls)).CutShort (deliverAll e ls) := by
  cases ls with
  | nil => exact absurd nofun h
  | cons l ls =>
    rw [leavesOf, deliverAll_append, deliverAll_cons]
    by_cases hl : ∀ m ∈ l.leaves, m.isWorded e = true
    · rw [leavesOf, List.forall_mem_append] at h
      have hflat := deliverAll_of_isWorded (fun m => isChain_of_mem_leaves) hl
      rw [← deliverAll_leaves hl]
      refine (cutShort_leavesOf fun hls => h ⟨hl, hls⟩).after ?_
      rw [hflat]
    · exact (cutShort_leaves hl).andThen _ _
end

/-- The leaves of a tree of chains get the event one after the other. -/
theorem deliver_chain {e : Event} {ms : List Listener}
    (h : ∀ l ∈ leavesOf ms, l.isWorded e = true) :
    deliver e (.chain ms) = ⟨(leavesOf ms).flatMap (leafTrace e), none⟩ := by
  rw [deliver, ← deliverAll_leavesOf h]
  exact deliverAll_of_isWorded (fun m => isChain_of_mem_leavesOf) h

/-- Nothing less will do for a tree to be like its leaves. -/
theorem deliver_chain_flat_iff (e : Event) (ms : List Listener) :
    ((deliver e (.chain ms)).failure = none ∧
      (deliver e (.chain ms)).happened = (deliver e (.chain (leavesOf ms))).happened) ↔
    ∀ l ∈ leavesOf ms, l.isWorded e = true := by
  constructor
  · intro ⟨hnone, hsame⟩
    refine Classical.byContradiction fun h => ?_
    have hlt := (cutShort_leavesOf h).lt hnone
    rw [deliver, deliver] at hsame
    rw [hsame] at hlt
    exact absurd hlt (Nat.lt_irrefl _)
  · intro h
    rw [deliver_chain h, deliver, deliverAll_leavesOf h, ← deliver, deliver_chain h]
    exact ⟨rfl, rfl⟩

end Listener

namespace Chains
open Listener

@[simp] theorem step_deliver_fst (cs : Chains) (k : Nat) (e : Event) :
    (cs.step (.deliver k e)).1 = cs := by
  rw [step]
  split <;> rfl

theorem step_deliver_snd (cs : Chains) (k : Nat) (e : Event) :
    (cs.step (.deliver k e)).2 = (cs[k]?).elim .quiet fun ls => deliver e (.chain ls) := by
  cases hk : cs[k]? with
  | none => simp [step, hk]
  | some ls => simp [step, hk]

/-- A step makes at most one chain, out of one that is there, and keeps all others. -/
theorem step_eq (cs : Chains) (x : ChainStep) :
    (cs.step x).1 = cs ∨
      ∃ ls ∈ cs, ∃ l, x.added? = some l ∧ (cs.step x).1 = (ls ++ [l]) :: cs := by
  cases x with
  | extend k l =>
    cases hk : cs[k]? with
    | none => exact .inl (by simp [step, hk])
    | some ls =>
      exact .inr ⟨ls, List.mem_of_getElem? hk, l, rfl, by simp [step, hk, chained]⟩
  | deliver k e => exact .inl (cs.step_deliver_fst k e)

/-- All chains are kept, and those that are made grow by what is chained to them, in that order. -/
theorem run_eq_append (cs : Chains) (xs : List ChainStep) :
    ∃ made, (cs.run xs).1 = made ++ cs ∧
      ∀ ms ∈ made, ∃ ls ∈ cs, ∃ added, ms = ls ++ added ∧
        added.Sublist (xs.filterMap ChainStep.added?) := by
  induction xs generalizing cs with
  | nil => exact ⟨[], rfl, by simp⟩
  | cons x xs ih =>
    obtain ⟨made, hrun, hmade⟩ := ih (cs.step x).1
    have hlater : (xs.filterMap ChainStep.added?).Sublist
        ((x :: xs).filterMap ChainStep.added?) :=
      (List.sublist_cons_self x xs).filterMap _
    rcases cs.step_eq x with hsame | ⟨ls, hls, l, hl, hnew⟩
    · rw [hsame] at hrun hmade
      refine ⟨made, by rw [run, hsame]; exact hrun, fun ms hms => ?_⟩
      obtain ⟨ks, hks, added, rfl, hadded⟩ := hmade ms hms
      exact ⟨ks, hks, added, rfl, hadded.trans hlater⟩
    · rw [hnew] at hrun hmade
      have hadd : (x :: xs).filterMap ChainStep.added? =
          l :: xs.filterMap ChainStep.added? := by simp [hl]
      refine ⟨made ++ [ls ++ [l]], by rw [run, hnew]; simp [hrun], fun ms hms => ?_⟩
      rcases List.mem_append.mp hms with hms | hms
      · obtain ⟨ks, hks, added, rfl, hadded⟩ := hmade ms hms
        rcases List.mem_cons.mp hks with rfl | hks
        · exact ⟨ls, hls, l :: added, by simp, hadd ▸ hadded.cons_cons l⟩
        · exact ⟨ks, hks, added, rfl, hadded.trans hlater⟩
      · rw [List.mem_singleton.mp hms]
        exact ⟨ls, hls, [l], rfl, by rw [hadd]; simp⟩

/-- Where each chain is made out of the newest one, the newest holds all that was chained. -/
theorem run_newest (ls : List Listener) (cs : Chains) {xs : List ChainStep}
    (h : ∀ x ∈ xs, x.isAtNewest = true) :
    ∃ kept, (run (ls :: cs) xs).1 = (ls ++ xs.filterMap ChainStep.added?) :: kept := by
  induction xs generalizing ls cs with
  | nil => exact ⟨cs, by simp [run]⟩
  | cons x xs ih =>
    have hx := h x List.mem_cons_self
    have hxs := fun y hy => h y (List.mem_cons_of_mem x hy)
    cases x with
    | extend k l =>
      obtain rfl : k = 0 := by simpa [ChainStep.isAtNewest] using hx
      obtain ⟨kept, hkept⟩ := ih (ls ++ [l]) (ls :: cs) hxs
      rw [List.append_assoc] at hkept
      exact ⟨kept, hkept⟩
    | deliver k e =>
      obtain ⟨kept, hkept⟩ := ih ls cs hxs
      refine ⟨kept, ?_⟩
      rw [run, step_deliver_fst]
      exact hkept

/-- An event that is given to a chain after some steps comes to the members of that chain. -/
theorem run_deliver (cs : Chains) (xs : List ChainStep) (k : Nat) (e : Event) :
    (cs.run (xs ++ [.deliver k e])).2 = (cs.run xs).2 ++
      [((cs.run xs).1[k]?).elim .quiet fun ls => deliver e (.chain ls)] := by
  rw [run_append, run, step_deliver_snd]
  rfl

end Chains

namespace Listener

/-- A tree of chains never fails and does what one chain of its leaves does, if and only if there
are words for whatever fails at the leaves. Then each leaf gets the event once, and where it fails
one warning follows. Otherwise a flat chain ends with the first leaf whose failure has no words.
Chaining puts a listener behind the others of a chain that itself stays, whatever is done with the
chains before and after. -/
theorem deliver_flat (e : Event) (ms : List Listener) :
    (((deliver e (.chain ms)).failure = none ∧
      (deliver e (.chain ms)).happened = (deliver e (.chain (leavesOf ms))).happened) ↔
      ∀ l ∈ leavesOf ms, l.isWorded e = true) ∧
    ((∀ l ∈ leavesOf ms, l.isWorded e = true) →
      deliver e (.chain ms) = ⟨(leavesOf ms).flatMap (leafTrace e), none⟩) ∧
    (∀ front l back, leavesOf ms = front ++ l :: back →
      (∀ m ∈ front, m.isWorded e = true) → l.isWorded e = false →
      (deliver e (.chain (leavesOf ms))).happened = (front ++ [l]).flatMap (leafTrace e) ∧
        (deliver e (.chain (leavesOf ms))).failure.isSome) ∧
    (∀ l ∈ leavesOf ms, l.isChain = false) ∧
    (∀ l, deliver e (.chain (chained ms l)) =
      (deliver e (.chain ms)).andThen (deliver e (.chain [l]))) ∧
    (∀ (cs : Chains) xs, ∃ made, (cs.run xs).1 = made ++ cs ∧
      ∀ ms ∈ made, ∃ ls ∈ cs, ∃ added, ms = ls ++ added ∧
        added.Sublist (xs.filterMap ChainStep.added?)) ∧
    (∀ ls cs (xs : List ChainStep), (∀ x ∈ xs, x.isAtNewest = true) →
      (Chains.run (ls :: cs) xs).1.head? = some (ls ++ xs.filterMap ChainStep.added?)) ∧
    ∀ (cs : Chains) xs k, (cs.run (xs ++ [.deliver k e])).2 = (cs.run xs).2 ++
      [((cs.run xs).1[k]?).elim .quiet fun ls => deliver e (.chain ls)] := by
  refine ⟨deliver_chain_flat_iff e ms, deliver_chain, ?_, fun _ => isChain_of_mem_leavesOf, ?_,
    Chains.run_eq_append, ?_, fun cs xs k => cs.run_deliver xs k e⟩
  · intro front l back hms hfront hl
    have hchain : ∀ m ∈ front ++ [l], m.isChain = false := by
      intro m hm
      have hleaf : m ∈ leavesOf ms := by
        rw [hms, List.append_cons]
        exact List.mem_append_left back hm
      exact isChain_of_mem_leavesOf hleaf
    rw [deliver, hms]
    exact deliverAll_of_not_isWorded hchain hfront hl
  · intro l
    rw [deliver, deliver, deliver, chained, deliverAll_append]
  · intro ls cs xs hnewest
    obtain ⟨kept, hkept⟩ := Chains.run_newest ls cs hnewest
    rw [hkept]
    rfl

def sampleSpy : Listener := .custom "Spy" "front" none

def sampleFailing : Listener := .custom "Guard" "back" (some (.text "no"))

def sampleEvent : Event := ⟨"ARTIFACT_RESOLVED", some "lib", none, none⟩

def sampleMembers : List Listener :=
  [.chain [.chain [sampleFailing], sampleSpy], .standardReporter]

/-- The failure is told once, at its place. -/
theorem deliver_sampleChains :
    (∀ l ∈ leavesOf sampleMembers, l.isWorded sampleEvent = true) ∧
    deliver sampleEvent (.chain sampleMembers) =
      ⟨[.seen "back" "ARTIFACT_RESOLVED",
        .logged (.warning .events "Repository listener Guard failed: no"),
        .seen "front" "ARTIFACT_RESOLVED",
        .logged (.debug .events "ARTIFACT_RESOLVED: lib")], none⟩ ∧
    ([.extend 0 sampleSpy, .deliver 0 sampleEvent, .extend 0 sampleFailing] :
      List ChainStep).all ChainStep.isAtNewest = true ∧
    (Chains.run [[]] [.extend 0 sampleSpy, .deliver 0 sampleEvent,
      .extend 0 sampleFailing]).1.head? = some [sampleSpy, sampleFailing] := by
  obtain ⟨_, htrace, _, _, _, _, hnewest, _⟩ := deliver_flat sampleEvent sampleMembers
  have hwords : ∀ l ∈ leavesOf sampleMembers, l.isWorded sampleEvent = true := by decide
  exact ⟨hwords, (htrace hwords).trans (by decide), by decide, hnewest [] [] _ (by decide)⟩

def speechless : Listener := .custom "Guard" "back" (some (.unwordable (.text "too long")))

/-- A chain with a member that fails without words fails itself, and within another chain it does
not hand on the event as a flat one does. -/
theorem not_forall_deliver_flat :
    (¬ ∀ e ms, (deliver e (.chain ms)).failure = none) ∧
    ¬ ∀ e ms, (deliver e (.chain ms)).happened = (deliver e (.chain (leavesOf ms))).happened := by
  constructor
  · intro hall
    exact absurd (hall sampleEvent [speechless, sampleSpy]) (by decide)
  · intro hall
    exact absurd (hall sampleEvent [.chain [speechless], sampleSpy]) (by decide)

end Listener
end ResolverSetup
