import Mathlib.Data.List.Basic
import Mathlib.Data.List.Induction
import ResolverSetup.Artifact.Kind
/-! A registry of kinds in terms of the handlers that made it: the first handler of each type gives
the type its place, and the last one says what the kind is. -/
namespace ResolverSetup

section
variable {α : Type} [DecidableEq α]

/-- The distinct elements of a list, in the order in which each of them first occurs. -/
structure FirstOccurrences (xs ys : List α) : Prop where
  mem_iff : ∀ x, x ∈ ys ↔ x ∈ xs
  ordered : ys.Pairwise fun x y => xs.idxOf x < xs.idxOf y

namespace FirstOccurrences
variable {xs ys zs : List α}

theorem ordered_append (h : FirstOccurrences xs ys) (more : List α) :
    ys.Pairwise fun x y => (xs ++ more).idxOf x < (xs ++ more).idxOf y := by
  refine h.ordered.imp_of_mem fun {x y} hx hy hlt => ?_
  have hxs : x ∈ xs := (h.mem_iff x).mp hx
  have hys : y ∈ xs := (h.mem_iff y).mp hy
  rwa [List.idxOf_append_of_mem hxs, List.idxOf_append_of_mem hys]

/-- A further element goes to the end, unless it has occurred before. -/
theorem concat (h : FirstOccurrences xs ys) (x : α) :
    FirstOccurrences (xs ++ [x]) (if x ∈ ys then ys else ys ++ [x]) := by
  have hold := h.ordered_append [x]
  by_cases hx : x ∈ ys
  · have hxs : x ∈ xs := (h.mem_iff x).mp hx
    rw [if_pos hx]
    refine ⟨fun y => ?_, hold⟩
    rw [h.mem_iff, List.mem_append, List.mem_singleton]
    constructor
    · exact Or.inl
    · intro hy
      cases hy with
      | inl hy => exact hy
      | inr hy => exact hy ▸ hxs
  · have hxs : x ∉ xs := fun hmem => hx ((h.mem_iff x).mpr hmem)
    rw [if_neg hx]
    refine ⟨fun y => by simp [h.mem_iff], ?_⟩
    refine List.pairwise_append.mpr ⟨hold, List.pairwise_singleton _ _, fun y hy z hz => ?_⟩
    have hys : y ∈ xs := (h.mem_iff y).mp hy
    have hlt : xs.idxOf y < xs.length := List.idxOf_lt_length_of_mem hys
    rw [List.mem_singleton.mp hz, List.idxOf_append_of_mem hys, List.idxOf_append_of_notMem hxs]
    omega

/-- What follows the elements of the front are those that only the back has, in its order. -/
theorem rest {more : List α} (h : FirstOccurrences xs ys)
    (hall : FirstOccurrences (xs ++ more) (ys ++ zs)) :
    (∀ z, z ∈ zs ↔ z ∈ more ∧ z ∉ xs) ∧ zs.Pairwise fun x y => more.idxOf x < more.idxOf y := by
  obtain ⟨_, hrest, hacross⟩ := List.pairwise_append.mp hall.ordered
  have hnew : ∀ z ∈ zs, z ∉ xs := by
    intro z hz hxs
    have hlt := hacross z ((h.mem_iff z).mpr hxs) z hz
    omega
  refine ⟨fun z => ?_, ?_⟩
  · have hmem := hall.mem_iff z
    rw [List.mem_append, List.mem_append, h.mem_iff] at hmem
    constructor
    · intro hz
      exact ⟨(hmem.mp (.inr hz)).resolve_left (hnew z hz), hnew z hz⟩
    · intro hz
      exact (hmem.mpr (.inr hz.1)).resolve_left hz.2
  · refine hrest.imp_of_mem fun {x y} hx hy hlt => ?_
    rw [List.idxOf_append_of_notMem (hnew x hx), List.idxOf_append_of_notMem (hnew y hy)] at hlt
    omega

end FirstOccurrences
end

namespace Artifact.KindRegistry

theorem ofHandlers_concat (hs : List Handler) (h : Handler) :
    ofHandlers (hs ++ [h]) = (ofHandlers hs).insert h := by
  rw [ofHandlers, List.foldl_concat]
  rfl

theorem types_insert (r : KindRegistry) (h : Handler) :
    (r.insert h).types = if h.type ∈ r.types then r.types else r.types ++ [h.type] :=
  Association.keys_put r.entries h.type (.ofHandler h)

theorem find?_insert (r : KindRegistry) (h : Handler) (t : String) :
    (r.insert h).find? t = if h.type = t then some (.ofHandler h) else r.find? t :=
  Association.get?_put r.entries h.type t (.ofHandler h)

theorem get_eq_of_find? {r : KindRegistry} {t : String} {k : Kind} (h : r.find? t = some k) :
    r.get t = k := by
  rw [get, h, Option.getD_some]

structure Follows (hs : List Handler) (r : KindRegistry) : Prop where
  types : FirstOccurrences (hs.map (·.type)) r.types
  find?_eq : ∀ t, r.find? t = (lastOf? (·.type == t) hs).map .ofHandler

namespace Follows
variable {hs : List Handler} {r : KindRegistry}

theorem start : Follows [] ⟨[]⟩ := ⟨⟨fun _ => Iff.rfl, .nil⟩, fun _ => rfl⟩

theorem insert (hr : Follows hs r) (h : Handler) : Follows (hs ++ [h]) (r.insert h) where
  types := by
    rw [types_insert, List.map_append]
    exact hr.types.concat h.type
  find?_eq t := by
    rw [find?_insert, lastOf?_concat, hr.find?_eq]
    by_cases ht : h.type = t
    · simp [ht]
    · simp [ht]

end Follows

theorem follows_ofHandlers (hs : List Handler) : Follows hs (ofHandlers hs) := by
  induction hs using List.reverseRecOn with
  | nil => exact .start
  | append_singleton hs h ih =>
    rw [ofHandlers_concat]
    exact ih.insert h

theorem contains_ofHandlers_iff (hs : List Handler) (t : String) :
    (ofHandlers hs).contains t = true ↔ ∃ h ∈ hs, h.type = t := by
  have hmem := (follows_ofHandlers hs).types.mem_iff t
  rw [contains, List.contains_iff_mem, hmem, List.mem_map]

/-- Handlers of other types behind them do not change what is found. -/
theorem find?_ofHandlers_append (hs : List Handler) {more : List Handler} {t : String}
    (h : ∀ x ∈ more, x.type ≠ t) :
    (ofHandlers (hs ++ more)).find? t = (ofHandlers hs).find? t := by
  have hother : ∀ x ∈ more, (x.type == t) = false := fun x hx => by simpa using h x hx
  rw [(follows_ofHandlers _).find?_eq, (follows_ofHandlers _).find?_eq,
    lastOf?_append_of_not hother]

theorem get_ofHandlers_append (hs : List Handler) {more : List Handler} {t : String}
    (h : ∀ x ∈ more, x.type ≠ t) : (ofHandlers (hs ++ more)).get t = (ofHandlers hs).get t := by
  rw [get, get, find?_ofHandlers_append hs h]

theorem get_ofHandlers_of_last (front : List Handler) (h : Handler) {back : List Handler}
    (hback : ∀ x ∈ back, x.type ≠ h.type) :
    (ofHandlers (front ++ h :: back)).get h.type = .ofHandler h := by
  have hsplit : front ++ h :: back = front ++ [h] ++ back := by simp
  apply get_eq_of_find?
  rw [hsplit, find?_ofHandlers_append _ hback, ofHandlers_concat, find?_insert, if_pos rfl]

theorem get_ofHandlers_of_none {hs : List Handler} {t : String} (h : ∀ x ∈ hs, x.type ≠ t) :
    (ofHandlers hs).get t = .ofHandler (.plain t) := by
  rw [← List.nil_append hs, get_ofHandlers_append [] h]
  rfl

theorem id_get_ofHandlers (hs : List Handler) (t : String) : ((ofHandlers hs).get t).id = t := by
  rw [get, (follows_ofHandlers hs).find?_eq]
  cases hlast : lastOf? (·.type == t) hs with
  | none => rfl
  | some h =>
    have ht : h.type = t := by simpa using List.find?_some hlast
    exact ht

theorem fileExtension_eq (h : Handler) :
    h.fileExtension = if h.extension.getD "" = "" then h.type else h.extension.getD "" := by
  rw [Handler.fileExtension]
  cases h.extension with
  | none => rfl
  | some e => simp

theorem types_isPrefix (hs more : List Handler) :
    (ofHandlers hs).types <+: (ofHandlers (hs ++ more)).types := by
  induction more using List.reverseRecOn with
  | nil => simp
  | append_singleton more x ih =>
    rw [← List.append_assoc, ofHandlers_concat, types_insert]
    split
    · exact ih
    · exact ih.trans (List.prefix_append _ _)

/-- The types stand in the order of their first handlers, and each kind is that of the last handler
of its type; any other type has a plain kind. Further handlers change only the kinds that they name,
and add the types that are new behind those that are there. -/
theorem ofHandlers_firstPlace_lastContent :
    (∀ hs, FirstOccurrences (hs.map (·.type)) (ofHandlers hs).types) ∧
    (∀ hs t, (ofHandlers hs).contains t = true ↔ ∃ h ∈ hs, h.type = t) ∧
    (∀ hs t, ((ofHandlers hs).get t).id = t) ∧
    (∀ front h back, (∀ x ∈ back, x.type ≠ h.type) →
      (ofHandlers (front ++ h :: back)).get h.type =
        { id := h.type
          extension := if h.extension.getD "" = "" then h.type else h.extension.getD ""
          classifier := h.classifier.getD ""
          language := h.language
          constitutesBuildPath := h.addedToClasspath
          includesDependencies := h.includesDependencies }) ∧
    (∀ hs t, (∀ h ∈ hs, h.type ≠ t) →
      (ofHandlers hs).get t = ⟨t, t, "", "none", false, false⟩) ∧
    (∀ hs more t, (∀ h ∈ more, h.type ≠ t) →
      (ofHandlers (hs ++ more)).get t = (ofHandlers hs).get t) ∧
    ∀ hs more, ∃ added, (ofHandlers (hs ++ more)).types = (ofHandlers hs).types ++ added ∧
      (∀ t, t ∈ added ↔ t ∈ more.map (·.type) ∧ t ∉ hs.map (·.type)) ∧
      added.Pairwise fun s t => (more.map (·.type)).idxOf s < (more.map (·.type)).idxOf t := by
  refine ⟨fun hs => (follows_ofHandlers hs).types, contains_ofHandlers_iff, id_get_ofHandlers,
    ?_, ?_, ?_, ?_⟩
  · intro front h back hback
    rw [get_ofHandlers_of_last front h hback, Kind.ofHandler, fileExtension_eq]
  · intro hs t ht
    exact get_ofHandlers_of_none ht
  · intro hs more t ht
    exact get_ofHandlers_append hs ht
  · intro hs more
    obtain ⟨added, hadded⟩ := types_isPrefix hs more
    have hall := (follows_ofHandlers (hs ++ more)).types
    rw [List.map_append, ← hadded] at hall
    exact ⟨added, hadded.symm, (follows_ofHandlers hs).types.rest hall⟩

def sampleHandlers : List Handler :=
  [⟨"bundle", some "", some "osgi", none, "java", true, false⟩,
    ⟨"jar", some "zip", none, none, "java", true, false⟩,
    ⟨"bundle", none, none, none, "none", false, true⟩]

theorem ofHandlers_sampleHandlers :
    (extended sampleHandlers).types = Handler.standard.map (·.type) ++ ["bundle"] ∧
    (extended sampleHandlers).get "bundle" = ⟨"bundle", "bundle", "", "none", false, true⟩ ∧
    (extended sampleHandlers).get "jar" = ⟨"jar", "zip", "", "java", true, false⟩ ∧
    (extended sampleHandlers).get "war" = (ofHandlers Handler.standard).get "war" ∧
    (extended sampleHandlers).get "nar" = ⟨"nar", "nar", "", "none", false, false⟩ := by
  obtain ⟨_, _, _, hlast, hnone, hother, _⟩ := ofHandlers_firstPlace_lastContent
  refine ⟨by decide +kernel, ?_, ?_, ?_, ?_⟩
  · exact hlast (Handler.standard ++ sampleHandlers.take 2)
      ⟨"bundle", none, none, none, "none", false, true⟩ [] (by simp)
  · exact hlast (Handler.standard ++ sampleHandlers.take 1)
      ⟨"jar", some "zip", none, none, "java", true, false⟩ (sampleHandlers.drop 2) (by decide)
  · exact hother Handler.standard sampleHandlers "war" (by decide)
  · exact hnone (Handler.standard ++ sampleHandlers) "nar" (by decide)

end Artifact.KindRegistry
end ResolverSetup
