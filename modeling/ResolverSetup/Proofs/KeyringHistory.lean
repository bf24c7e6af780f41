import Mathlib.Data.List.DropRight
import Mathlib.Data.List.Induction
import ResolverSetup.Keyring
/-! A keyring in terms of the registrations that made it: for each id the last one counts, and the
ids stand in the order in which they were first bound since they were last taken out. -/
namespace ResolverSetup.Keyring

/-- What is bound under an id. Where it is nothing, the id is taken out. -/
structure Registration where
  id : String
  credentials : Option Credentials
deriving DecidableEq

namespace Registration

def ofServer (s : Server) : Registration := ⟨s.id, s.credentials⟩

def takesOut (r : Registration) (id : String) : Bool := r.id == id && r.credentials.isNone

theorem takesOut_of_ne {r : Registration} {id : String} (h : r.id ≠ id) :
    r.takesOut id = false := by
  simp [takesOut, h]

theorem takesOut_of_some {r : Registration} {c : Credentials} (h : r.credentials = some c)
    (id : String) : r.takesOut id = false := by
  simp [takesOut, h]

end Registration

def ofHistory (h : List Registration) : Keyring :=
  h.foldl (fun k r => k.add r.id r.credentials) empty

theorem ofHistory_concat (h : List Registration) (r : Registration) :
    ofHistory (h ++ [r]) = (ofHistory h).add r.id r.credentials := by
  rw [ofHistory, List.foldl_concat]
  rfl

theorem ofServers_eq (servers : List Server) :
    ofServers servers = ofHistory (servers.map .ofServer) := by
  rw [ofHistory, List.foldl_map]
  rfl

theorem keys_add_some (k : Keyring) (id : String) (c : Credentials) :
    (k.add id (some c)).entries.keys =
      if id ∈ k.entries.keys then k.entries.keys else k.entries.keys ++ [id] :=
  Association.keys_put k.entries id c

theorem keys_add_none (k : Keyring) (id : String) :
    (k.add id none).entries.keys = k.entries.keys.filter fun j => decide (j ≠ id) :=
  Association.keys_erase k.entries id

theorem mem_keys_iff (k : Keyring) (id : String) :
    id ∈ k.entries.keys ↔ ∃ c, k.select id = some c := by
  have hnone := Association.get?_eq_none_iff k.entries id
  rw [← Option.isSome_iff_exists, ← Option.ne_none_iff_isSome, select, ne_eq, hnone, not_not]

/-! What a history says of an id, and how one more registration changes that. -/

def latest (h : List Registration) (id : String) : Option Credentials :=
  (lastOf? (·.id == id) h).bind (·.credentials)

/-- The registrations since an id was last taken out. -/
def since (h : List Registration) (id : String) : List Registration :=
  h.rtakeWhile fun r => !r.takesOut id

/-- The index of the earliest registration of an id since it was last taken out. -/
def place (h : List Registration) (id : String) : Nat :=
  (h.rdropWhile fun r => !r.takesOut id).length + (since h id).findIdx (·.id == id)

section
variable {h : List Registration} {r : Registration} {id : String}

theorem latest_concat (h : List Registration) (r : Registration) (id : String) :
    latest (h ++ [r]) id = if r.id = id then r.credentials else latest h id := by
  rw [latest, lastOf?_concat]
  by_cases hr : r.id = id
  · simp [hr]
  · simp [hr, latest]

theorem since_concat (hr : r.takesOut id = false) : since (h ++ [r]) id = since h id ++ [r] :=
  List.rtakeWhile_concat_pos _ h r (by simp [hr])

theorem since_concat_of_takesOut (hr : r.takesOut id = true) : since (h ++ [r]) id = [] := by
  rw [since, List.rtakeWhile_concat]
  simp [hr]

/-- An id has credentials if it was registered since it was last taken out. -/
theorem latest_eq_some_iff (h : List Registration) (id : String) :
    (∃ c, latest h id = some c) ↔ ∃ r ∈ since h id, r.id = id := by
  induction h using List.reverseRecOn with
  | nil => simp [latest, lastOf?, since]
  | append_singleton h r ih =>
    rw [latest_concat]
    by_cases hr : r.id = id
    · cases hc : r.credentials with
      | none =>
        have hout : r.takesOut id = true := by simp [Registration.takesOut, hr, hc]
        simp [hr, since_concat_of_takesOut hout]
      | some c =>
        rw [since_concat (Registration.takesOut_of_some hc id)]
        simp [hr]
    · rw [if_neg hr, ih, since_concat (Registration.takesOut_of_ne hr)]
      simp [hr]

theorem findIdx_since_lt_iff (h : List Registration) (id : String) :
    (since h id).findIdx (·.id == id) < (since h id).length ↔ ∃ c, latest h id = some c := by
  rw [latest_eq_some_iff, List.findIdx_lt_length]
  simp

theorem length_rdropWhile_add (h : List Registration) (id : String) :
    (h.rdropWhile fun r => !r.takesOut id).length + (since h id).length = h.length := by
  have hall := List.takeWhile_append_dropWhile (p := fun r => !r.takesOut id) (l := h.reverse)
  have hlength := congrArg List.length hall
  simp only [List.length_append, List.length_reverse] at hlength
  simp only [since, List.rtakeWhile, List.rdropWhile, List.length_reverse]
  omega

theorem place_lt_length (hid : ∃ c, latest h id = some c) : place h id < h.length := by
  have hfound := (findIdx_since_lt_iff h id).mpr hid
  have hlength := length_rdropWhile_add h id
  rw [place]
  omega

theorem place_concat_eq (hr : r.takesOut id = false) :
    place (h ++ [r]) id =
      (h.rdropWhile fun r => !r.takesOut id).length +
        (since h id ++ [r]).findIdx (·.id == id) := by
  rw [place, since_concat hr, List.rdropWhile_concat_pos _ _ _ (by simp [hr])]

/-- An id that has credentials keeps its place until it is taken out. -/
theorem place_concat (hid : ∃ c, latest h id = some c) (hr : r.takesOut id = false) :
    place (h ++ [r]) id = place h id := by
  have hfound := (findIdx_since_lt_iff h id).mpr hid
  rw [place_concat_eq hr, List.findIdx_append, if_pos hfound, place]

/-- An id that has none gets the last place. -/
theorem place_concat_of_latest_eq_none (hid : ¬ ∃ c, latest h r.id = some c)
    (hr : r.takesOut r.id = false) : place (h ++ [r]) r.id = h.length := by
  have hfree := mt (findIdx_since_lt_iff h r.id).mp hid
  have hlength := length_rdropWhile_add h r.id
  rw [place_concat_eq hr, List.findIdx_append, if_neg hfree]
  simp only [List.findIdx_cons, beq_self_eq_true, cond_true]
  omega

end

structure Follows (h : List Registration) (k : Keyring) : Prop where
  select_eq : ∀ id, k.select id = latest h id
  ordered : k.entries.keys.Pairwise fun i j => place h i < place h j

namespace Follows
variable {h : List Registration} {k : Keyring}

theorem start : Follows [] empty := ⟨fun _ => rfl, .nil⟩

theorem mem_keys_iff (hk : Follows h k) (id : String) :
    id ∈ k.entries.keys ↔ ∃ c, latest h id = some c := by
  rw [Keyring.mem_keys_iff, hk.select_eq]

theorem nodup (hk : Follows h k) : k.entries.keys.Nodup :=
  hk.ordered.imp fun hlt he => absurd hlt (by simp [he])

theorem mem_entries_iff (hk : Follows h k) (id : String) (c : Credentials) :
    (id, c) ∈ k.entries ↔ k.select id = some c :=
  (Association.get?_eq_some_iff hk.nodup id c).symm

/-- Places do not change where the registration takes none of the ids out. -/
theorem ordered_concat (hk : Follows h k) {r : Registration} {ids : List String}
    (hids : ids.Sublist k.entries.keys) (hr : ∀ id ∈ ids, r.takesOut id = false) :
    ids.Pairwise fun i j => place (h ++ [r]) i < place (h ++ [r]) j := by
  refine (hk.ordered.sublist hids).imp_of_mem fun {i j} hi hj hlt => ?_
  have hbi := (hk.mem_keys_iff i).mp (hids.mem hi)
  have hbj := (hk.mem_keys_iff j).mp (hids.mem hj)
  rwa [place_concat hbi (hr i hi), place_concat hbj (hr j hj)]

theorem add (hk : Follows h k) (r : Registration) :
    Follows (h ++ [r]) (k.add r.id r.credentials) where
  select_eq id := by rw [select_add, latest_concat, hk.select_eq]
  ordered := by
    cases hc : r.credentials with
    | none =>
      rw [keys_add_none]
      refine hk.ordered_concat List.filter_sublist fun id hid => ?_
      have hne : id ≠ r.id := by simpa using (List.mem_filter.mp hid).2
      exact Registration.takesOut_of_ne hne.symm
    | some c =>
      have hin := Registration.takesOut_of_some hc
      have hold := hk.ordered_concat (List.Sublist.refl _) fun id _ => hin id
      rw [keys_add_some]
      split
      case isTrue => exact hold
      case isFalse hid =>
        -- the id is new, and its place is behind all others
        refine List.pairwise_append.mpr ⟨hold, List.pairwise_singleton _ _, fun i hi j hj => ?_⟩
        obtain rfl := List.mem_singleton.mp hj
        rw [hk.mem_keys_iff] at hi hid
        rw [place_concat hi (hin i), place_concat_of_latest_eq_none hid (hin _)]
        exact place_lt_length hi

end Follows

theorem follows_ofHistory (h : List Registration) : Follows h (ofHistory h) := by
  induction h using List.reverseRecOn with
  | nil => exact .start
  | append_singleton h r ih =>
    rw [ofHistory_concat]
    exact ih.add r

theorem select_ofServers (servers : List Server) (id : String) :
    (ofServers servers).select id = (lastOf? (·.id == id) servers).bind Server.credentials := by
  rw [ofServers_eq, (follows_ofHistory _).select_eq, latest, lastOf?_map, Option.bind_map]
  rfl

/-- For each id the last registration counts. Each bound id stands once among the entries, at the
place of its earliest registration since it was last taken out: a new binding keeps the place of the
old one, and goes to the end if the id was taken out in between. -/
theorem ofHistory_lastCounts :
    (∀ h id, (ofHistory h).select id = (lastOf? (·.id == id) h).bind (·.credentials)) ∧
    (∀ h, (ofHistory h).entries.keys.Nodup ∧
      (∀ id, id ∈ (ofHistory h).entries.keys ↔
        ∃ r c, lastOf? (·.id == id) h = some r ∧ r.credentials = some c) ∧
      (∀ id c, (id, c) ∈ (ofHistory h).entries ↔ (ofHistory h).select id = some c) ∧
      (ofHistory h).entries.keys.Pairwise fun i j => place h i < place h j) ∧
    (∀ h id c, id ∈ (ofHistory h).entries.keys →
      (ofHistory (h ++ [⟨id, some c⟩])).entries.keys = (ofHistory h).entries.keys) ∧
    (∀ h id c, (ofHistory (h ++ [⟨id, none⟩, ⟨id, some c⟩])).entries.keys =
      ((ofHistory h).entries.keys.filter fun j => decide (j ≠ id)) ++ [id]) ∧
    (∀ servers, ofServers servers = ofHistory (servers.map .ofServer)) ∧
    ∀ servers id,
      (ofServers servers).select id = (lastOf? (·.id == id) servers).bind Server.credentials ∧
      ∀ s, lastOf? (·.id == id) servers = some s →
        ((ofServers servers).select id = none ↔
          s.username = none ∧ s.password = none ∧ s.privateKey = none) ∧
        ∀ c, (ofServers servers).select id = some c →
          c = ⟨s.username, s.password, s.privateKey, s.privateKey.bind fun _ => s.passphrase⟩ := by
  refine ⟨fun h => (follows_ofHistory h).select_eq, ?_, ?_, ?_, ofServers_eq, ?_⟩
  · intro h
    have hk := follows_ofHistory h
    refine ⟨hk.nodup, ?_, hk.mem_entries_iff, hk.ordered⟩
    intro id
    rw [hk.mem_keys_iff, exists_comm]
    simp only [latest, Option.bind_eq_some_iff]
  · intro h id c hid
    rw [ofHistory_concat, keys_add_some, if_pos hid]
  · intro h id c
    have hpair : h ++ [⟨id, none⟩, ⟨id, some c⟩] = (h ++ [⟨id, none⟩]) ++ [⟨id, some c⟩] := by simp
    rw [hpair, ofHistory_concat, ofHistory_concat, keys_add_some, keys_add_none]
    simp
  · intro servers id
    refine ⟨select_ofServers servers id, ?_⟩
    intro s hs
    rw [select_ofServers, hs, Option.bind_some, Server.credentials]
    refine ⟨Credentials.ofParts?_eq_none_iff _ _ _ _, ?_⟩
    intro c hc
    rw [Credentials.ofParts?] at hc
    split at hc
    case isTrue => cases hc
    case isFalse =>
      cases hc
      cases s.privateKey <;> rfl

def sampleHistory : List Registration :=
  [⟨"a", some ⟨some "one", none, none, none⟩⟩, ⟨"b", some ⟨some "two", none, none, none⟩⟩,
    ⟨"a", some ⟨some "three", none, none, none⟩⟩]

def sampleServers : List Server :=
  [⟨"a", some "one", some (.text "secret"), none, none, none, none, none⟩,
    ⟨"b", none, none, some "key", some (.text "phrase"), none, none, none⟩,
    ⟨"a", none, none, none, some (.text "phrase"), none, none, none⟩]

theorem ofHistory_sampleHistory :
    "a" ∈ (ofHistory sampleHistory).entries.keys ∧
    (ofHistory (sampleHistory ++ [⟨"a", some ⟨none, none, some "key", none⟩⟩])).entries.keys =
      ["a", "b"] ∧
    (ofHistory (sampleHistory ++
      [⟨"a", none⟩, ⟨"a", some ⟨none, none, some "key", none⟩⟩])).entries.keys = ["b", "a"] ∧
    lastOf? (·.id == "a") sampleServers = sampleServers[2]? ∧
    (ofServers sampleServers).select "a" = none ∧
    ∀ c, (ofServers sampleServers).select "b" = some c →
      c = ⟨none, none, some "key", some (.text "phrase")⟩ := by
  obtain ⟨_, _, hkept, hmoved, _, hservers⟩ := ofHistory_lastCounts
  have hbound : "a" ∈ (ofHistory sampleHistory).entries.keys := by decide
  have hlast : lastOf? (·.id == "a") sampleServers = sampleServers[2]? := by decide
  have hempty := ((hservers sampleServers "a").2 _ hlast).1
  have hfull := ((hservers sampleServers "b").2 sampleServers[1] (by decide)).2
  refine ⟨hbound, (hkept sampleHistory "a" _ hbound).trans (by decide),
    (hmoved sampleHistory "a" _).trans (by decide), hlast, hempty.mpr (by decide), hfull⟩

end ResolverSetup.Keyring
