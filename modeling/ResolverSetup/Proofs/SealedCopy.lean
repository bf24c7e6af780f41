import ResolverSetup.Proofs.AllOrNothing
/-! The copy of a configuration that connectors see: at every depth it reads like the configuration
without its transport entry, and nothing in it can be changed. -/
namespace ResolverSetup

namespace Value

def part? : Value → Nat → Option Value
  | .list _ xs, i => xs[i]?
  | .map _ es, i => es[i]?.map (·.2)
  | .set _ xs, i => xs[i]?
  | _, _ => none

def partAt? (v : Value) : List Nat → Option Value
  | [] => some v
  | i :: path => (v.part? i).bind (·.partAt? path)

/-- What a value shows without its parts being looked into. A sequence does not show whether it is a
list or a tuple, and no container shows who may change it. -/
inductive Aspect
  | scalar (v : Value)
  | sequence (length : Nat)
  | mapping (keys : List Value)
  | collection (size : Nat)
deriving DecidableEq

def aspect : Value → Aspect
  | .list _ xs => .sequence xs.length
  | .map _ es => .mapping (es.map (·.1))
  | .set _ xs => .collection xs.length
  | v => .scalar v

def isOpen : Value → Bool
  | .list a _ | .map a _ | .set a _ => a == .writable
  | _ => false

mutual
def isSealed : Value → Bool
  | .list a xs => a == .readOnly && itemsSealed xs
  | .map a es => a == .readOnly && entriesSealed es
  | .set a xs => a == .readOnly && itemsSealed xs
  | _ => true

def itemsSealed : List Value → Bool
  | [] => true
  | x :: xs => isSealed x && itemsSealed xs

def entriesSealed : List (Value × Value) → Bool
  | [] => true
  | (k, v) :: es => isSealed k && isSealed v && entriesSealed es
end

mutual
/-- Whether no key in a value can be changed, as a mapping needs to find its keys again. -/
def hasSealedKeys : Value → Bool
  | .list _ xs => itemsHaveSealedKeys xs
  | .map _ es => entriesHaveSealedKeys es
  | .set _ xs => itemsHaveSealedKeys xs
  | _ => true

def itemsHaveSealedKeys : List Value → Bool
  | [] => true
  | x :: xs => hasSealedKeys x && itemsHaveSealedKeys xs

def entriesHaveSealedKeys : List (Value × Value) → Bool
  | [] => true
  | (k, v) :: es => isSealed k && hasSealedKeys v && entriesHaveSealedKeys es
end

theorem entriesHaveSealedKeys_iff (es : List (Value × Value)) :
    entriesHaveSealedKeys es = true ↔
      ∀ e ∈ es, e.1.isSealed = true ∧ e.2.hasSealedKeys = true := by
  induction es with
  | nil => simp [entriesHaveSealedKeys]
  | cons e es ih =>
    obtain ⟨k, v⟩ := e
    simp [entriesHaveSealedKeys, ih]

theorem frozenItems_eq_map (xs : List Value) : frozenItems xs = xs.map frozen := by
  induction xs with
  | nil => rfl
  | cons x xs ih => rw [frozenItems, ih, List.map_cons]

theorem frozenEntries_eq_map (es : List (Value × Value)) :
    frozenEntries es = es.map fun e => (e.1, e.2.frozen) := by
  induction es with
  | nil => rfl
  | cons e es ih =>
    obtain ⟨k, v⟩ := e
    rw [frozenEntries, ih, List.map_cons]

theorem keys_frozenEntries (es : List (Value × Value)) :
    (frozenEntries es).map (·.1) = es.map (·.1) := by
  rw [frozenEntries_eq_map, List.map_map]
  rfl

theorem aspect_frozen (v : Value) : v.frozen.aspect = v.aspect := by
  cases v with
  | list a xs => rw [frozen, aspect, aspect, frozenItems_eq_map, List.length_map]
  | map a es => rw [frozen, aspect, aspect, keys_frozenEntries]
  | set a xs => rw [frozen, aspect, aspect, frozenItems_eq_map, List.length_map]
  | _ => rfl

theorem part?_frozen (v : Value) (i : Nat) : v.frozen.part? i = (v.part? i).map frozen := by
  cases v with
  | list a xs => rw [frozen, part?, part?, frozenItems_eq_map, List.getElem?_map]
  | map a es =>
    rw [frozen, part?, part?, frozenEntries_eq_map, List.getElem?_map, Option.map_map,
      Option.map_map]
    rfl
  | set a xs => rw [frozen, part?, part?, frozenItems_eq_map, List.getElem?_map]
  | _ => rfl

theorem partAt?_frozen (v : Value) (path : List Nat) :
    v.frozen.partAt? path = (v.partAt? path).map frozen := by
  induction path generalizing v with
  | nil => rfl
  | cons i path ih =>
    rw [partAt?, partAt?, part?_frozen]
    cases v.part? i with
    | none => rfl
    | some w => exact ih w

/-- A copy shows the same as what it was made of, wherever one looks. -/
theorem aspect_partAt?_frozen (v : Value) (path : List Nat) :
    (v.frozen.partAt? path).map aspect = (v.partAt? path).map aspect := by
  rw [partAt?_frozen, Option.map_map]
  exact congrArg (Option.map · (v.partAt? path)) (funext aspect_frozen)

theorem isOpen_partAt?_frozen {v w : Value} {path : List Nat} (h : v.frozen.partAt? path = some w) :
    w.isOpen = false := by
  rw [partAt?_frozen] at h
  obtain ⟨x, -, rfl⟩ := Option.map_eq_some_iff.mp h
  cases x <;> rfl

mutual
theorem isSealed_frozen {v : Value} (h : v.hasSealedKeys = true) : v.frozen.isSealed = true := by
  cases v with
  | list a xs => simpa [frozen, isSealed] using itemsSealed_frozenItems h
  | map a es => simpa [frozen, isSealed] using entriesSealed_frozenEntries h
  | set a xs => simpa [frozen, isSealed] using itemsSealed_frozenItems h
  | _ => rfl

theorem itemsSealed_frozenItems {xs : List Value} (h : itemsHaveSealedKeys xs = true) :
    itemsSealed (frozenItems xs) = true := by
  cases xs with
  | nil => rfl
  | cons x xs =>
    obtain ⟨hx, hxs⟩ := Bool.and_eq_true_iff.mp h
    rw [frozenItems, itemsSealed, isSealed_frozen hx, itemsSealed_frozenItems hxs, Bool.and_self]

theorem entriesSealed_frozenEntries {es : List (Value × Value)}
    (h : entriesHaveSealedKeys es = true) : entriesSealed (frozenEntries es) = true := by
  cases es with
  | nil => rfl
  | cons e es =>
    obtain ⟨k, v⟩ := e
    obtain ⟨hkv, hes⟩ := Bool.and_eq_true_iff.mp h
    obtain ⟨hk, hv⟩ := Bool.and_eq_true_iff.mp hkv
    rw [frozenEntries, entriesSealed, hk, isSealed_frozen hv, entriesSealed_frozenEntries hes,
      Bool.and_self, Bool.and_self]
end

mutual
theorem frozen_frozen (v : Value) : v.frozen.frozen = v.frozen := by
  cases v with
  | list a xs => rw [frozen, frozen, frozenItems_frozenItems xs]
  | map a es => rw [frozen, frozen, frozenEntries_frozenEntries es]
  | set a xs => rw [frozen, frozen, frozenItems_frozenItems xs]
  | _ => rfl

theorem frozenItems_frozenItems (xs : List Value) :
    frozenItems (frozenItems xs) = frozenItems xs := by
  cases xs with
  | nil => rfl
  | cons x xs => rw [frozenItems, frozenItems, frozen_frozen x, frozenItems_frozenItems xs]

theorem frozenEntries_frozenEntries (es : List (Value × Value)) :
    frozenEntries (frozenEntries es) = frozenEntries es := by
  cases es with
  | nil => rfl
  | cons e es =>
    obtain ⟨k, v⟩ := e
    rw [frozenEntries, frozenEntries, frozen_frozen v, frozenEntries_frozenEntries es]
end

end Value

def withoutTransport (t : Table) : Table := t.filter fun e => decide (e.1 ≠ .text transportKey)

theorem connectorEntries_eq (t : Table) :
    connectorEntries t = Value.frozenEntries (withoutTransport t) := by
  have hkey : (fun e : Value × Value => !e.1.sameKey (.text transportKey)) =
      fun e => decide (e.1 ≠ .text transportKey) := by
    funext e
    rw [Bool.eq_iff_iff, Bool.not_eq_true', Bool.eq_false_iff, ne_eq, Value.sameKey_text_iff,
      decide_eq_true_eq]
  rw [connectorEntries, withoutTransport, hkey]

theorem connectorConfiguration_eq (t : Table) :
    connectorConfiguration t = (Value.map .writable (withoutTransport t)).frozen := by
  rw [connectorConfiguration, connectorEntries_eq, Value.frozen]

theorem keys_withoutTransport (t : Table) : (withoutTransport t).map (·.1) =
    (t.map (·.1)).filter fun k => decide (k ≠ .text transportKey) := by
  rw [withoutTransport, List.filter_map]
  rfl

/-- There is no transport entry in what is left after one has been taken out. -/
theorem withoutTransport_frozenEntries (t : Table) :
    withoutTransport (Value.frozenEntries (withoutTransport t)) =
      Value.frozenEntries (withoutTransport t) := by
  refine List.filter_eq_self.mpr fun e he => ?_
  have hkey : e.1 ∈ (Value.frozenEntries (withoutTransport t)).map (·.1) := List.mem_map_of_mem he
  rw [Value.keys_frozenEntries, keys_withoutTransport] at hkey
  exact (List.mem_filter.mp hkey).2

theorem connectorEntries_connectorEntries (t : Table) :
    connectorEntries (connectorEntries t) = connectorEntries t := by
  rw [connectorEntries_eq (connectorEntries t), connectorEntries_eq, withoutTransport_frozenEntries,
    Value.frozenEntries_frozenEntries]

theorem isSealed_connectorConfiguration {t : Table}
    (h : Value.entriesHaveSealedKeys t = true) : (connectorConfiguration t).isSealed = true := by
  rw [connectorConfiguration_eq]
  refine Value.isSealed_frozen ?_
  rw [Value.hasSealedKeys, Value.entriesHaveSealedKeys_iff]
  rw [Value.entriesHaveSealedKeys_iff] at h
  exact fun e he => h e (List.mem_of_mem_filter he)

/-- A value shows what a configuration does without the choice of a transport on its first level,
and nothing in it is open to changes. -/
structure IsStripped (t : Table) (v : Value) : Prop where
  shows : ∀ path, (v.partAt? path).map Value.aspect =
    (Value.partAt? (.map .writable (t.filter fun e => decide (e.1 ≠ .text "wagonProvider")))
      path).map Value.aspect
  closed : ∀ path w, v.partAt? path = some w → w.isOpen = false

theorem isStripped_connectorConfiguration (t : Table) :
    IsStripped t (connectorConfiguration t) where
  shows path := by
    rw [connectorConfiguration_eq]
    exact Value.aspect_partAt?_frozen _ path
  closed path w hw := by
    rw [connectorConfiguration_eq] at hw
    exact Value.isOpen_partAt?_frozen hw

/-- A build hands out configurations and keeps those of the request as they are. -/
theorem Collaborators.run_keeps_servers {ε : Type} (c : Collaborators ε) :
    Procedure.Keeps (fun q : Request => q.servers) c.run := by
  refine .bind .current fun request => ?_
  refine .bind (.perform _) fun agent => ?_
  refine .bind (.perform _) fun handlers => ?_
  refine .bind (.perform _) fun store => ?_
  refine .bind (.perform _) fun d => ?_
  refine .bind (.perform _) fun _ => ?_
  refine .bind (.perform _) fun listeners => ?_
  refine .bind (.perform _) fun remote => ?_
  refine .bind (.perform _) fun plugin => ?_
  refine .bind (.change fun _ => rfl) fun _ => ?_
  refine .bind (.change fun _ => rfl) fun _ => ?_
  refine .bind (.perform _) fun entry => ?_
  refine .bind (.perform _) fun _ => ?_
  exact .pure _

/-- The copy of a configuration shows at every path what the configuration shows there without its
transport entry: on the first level the other keys in their order, and below all keys. No value in
it is open to changes, and no key if none was, and it has nothing that a second copy would leave out
or close. -/
theorem connectorConfiguration_sealedCopy :
    (∀ t, (connectorEntries t).map (·.1) =
      (t.map (·.1)).filter fun k => decide (k ≠ .text transportKey)) ∧
    (∀ t path, ((connectorConfiguration t).partAt? path).map Value.aspect =
      ((Value.map .writable (withoutTransport t)).partAt? path).map Value.aspect) ∧
    (∀ t path v, (connectorConfiguration t).partAt? path = some v → v.isOpen = false) ∧
    (∀ t, Value.entriesHaveSealedKeys t = true → (connectorConfiguration t).isSealed = true) ∧
    (∀ t, connectorConfiguration (connectorEntries t) = connectorConfiguration t) ∧
    ∀ {ε : Type} (c : Collaborators ε) q, (c.run q).2.servers = q.servers := by
  refine ⟨?_, fun t => (isStripped_connectorConfiguration t).shows,
    fun t => (isStripped_connectorConfiguration t).closed, fun t => isSealed_connectorConfiguration,
    ?_, fun c => c.run_keeps_servers⟩
  · intro t
    rw [connectorEntries_eq, Value.keys_frozenEntries, keys_withoutTransport]
  · intro t
    rw [connectorConfiguration, connectorEntries_connectorEntries, connectorConfiguration]

def sampleConfiguration : Table :=
  [(.text transportKey, .text "lightweight"),
   (.text "headers", .map .writable
     [(.text transportKey, .list .writable [.text "kept", .set .writable [.int 1, .int 2]]),
      (.list .readOnly [.int 8, .null], .list .readOnly [.map .writable []])]),
   (.int 7, .bool true)]

theorem connectorConfiguration_sampleConfiguration :
    Value.entriesHaveSealedKeys sampleConfiguration = true ∧
      (connectorConfiguration sampleConfiguration).isSealed = true ∧
      (connectorEntries sampleConfiguration).map (·.1) = [.text "headers", .int 7] ∧
      ((connectorConfiguration sampleConfiguration).partAt? [0, 0]).map Value.aspect =
        some (.sequence 2) ∧
      (connectorConfiguration sampleConfiguration).partAt? [0, 0, 1] =
        some (.set .readOnly [.int 1, .int 2]) ∧
      (Value.set .readOnly [.int 1, .int 2]).isOpen = false := by
  have hkeys : Value.entriesHaveSealedKeys sampleConfiguration = true := by decide
  have hset : (connectorConfiguration sampleConfiguration).partAt? [0, 0, 1] =
      some (.set .readOnly [.int 1, .int 2]) := by decide
  obtain ⟨htop, hdeep, hclosed, hsealed, -, -⟩ := connectorConfiguration_sealedCopy
  refine ⟨hkeys, hsealed _ hkeys, ?_, ?_, hset, hclosed _ _ _ hset⟩
  · rw [htop]
    decide
  · rw [hdeep]
    decide

end ResolverSetup
