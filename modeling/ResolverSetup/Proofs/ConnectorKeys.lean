import Mathlib.Data.List.Induction
import ResolverSetup.Proofs.PropertyLayers
import ResolverSetup.Proofs.SealedCopy
/-! The properties of servers: which keys there are, that no two servers share one, and which of
several servers with one id each value comes from. -/
namespace ResolverSetup

namespace PropertyKey

/-- The part of a key that all keys of its family begin with. -/
def stem : PropertyKey → String
  | userAgent => "aether.connector.userAgent"
  | interactive => "aether.interactive"
  | configuration _ => "aether.connector.wagon.config."
  | fileMode _ => "aether.connector.perms.fileMode."
  | directoryMode _ => "aether.connector.perms.dirMode."

def member : PropertyKey → String
  | userAgent | interactive => ""
  | configuration server | fileMode server | directoryMode server => server

def stems : List String :=
  ["aether.connector.userAgent", "aether.interactive", "aether.connector.wagon.config.",
    "aether.connector.perms.fileMode.", "aether.connector.perms.dirMode."]

theorem stem_mem (k : PropertyKey) : k.stem ∈ stems := by
  cases k <;> simp [stem, stems]

theorem text_eq_append (k : PropertyKey) : k.text = k.stem ++ k.member := by
  cases k with
  | userAgent => exact String.append_empty.symm
  | interactive => exact String.append_empty.symm
  | configuration server => rfl
  | fileMode server => rfl
  | directoryMode server => rfl

/-- No stem begins with another one. -/
theorem stems_apart : ∀ a ∈ stems, ∀ b ∈ stems, a.toList <+: b.toList → a = b := by
  simp [stems, List.cons_prefix_cons]

theorem eq_of_stem_eq {k l : PropertyKey} (hstem : k.stem = l.stem) (hmember : k.member = l.member) :
    k = l := by
  cases k <;> cases l <;> simp_all [stem, member]

theorem text_injective : Function.Injective text := by
  intro k l h
  rw [text_eq_append, text_eq_append] at h
  have hlist := congrArg String.toList h
  rw [String.toList_append, String.toList_append] at hlist
  have hk : k.stem.toList <+: k.stem.toList ++ k.member.toList := List.prefix_append _ _
  have hl : l.stem.toList <+: k.stem.toList ++ k.member.toList := hlist ▸ List.prefix_append _ _
  have hstem : k.stem = l.stem := by
    cases List.prefix_or_prefix_of_prefix hk hl with
    | inl hkl => exact stems_apart _ k.stem_mem _ l.stem_mem hkl
    | inr hlk => exact (stems_apart _ l.stem_mem _ k.stem_mem hlk).symm
  rw [hstem] at hlist
  exact eq_of_stem_eq hstem (String.toList_injective (List.append_cancel_left hlist))

theorem member_of_mem_ofServer {k : PropertyKey} {id : String} (hk : k ∈ ofServer id) :
    k.member = id := by
  simp only [ofServer, List.mem_cons, List.not_mem_nil, or_false] at hk
  obtain rfl | rfl | rfl := hk <;> rfl

theorem sameKey_toValue (k l : PropertyKey) : k.toValue.sameKey l.toValue = decide (k = l) := by
  rw [toValue, toValue, Value.sameKey_text, Bool.eq_iff_iff, beq_iff_eq, decide_eq_true_eq,
    text_injective.eq_iff]

end PropertyKey

namespace Server
open PropertyKey

def table (s : Server) : Table := s.properties.map fun e => (e.1.toValue, e.2)

theorem distinct_table (s : Server) : s.table.Distinct := by
  cases hc : s.configuration with
  | none => simp [table, properties, hc, Table.Distinct, sameKey_toValue]
  | some t => simp [table, properties, hc, Table.Distinct, sameKey_toValue]

def property? (s : Server) : PropertyKey → Option Value
  | .userAgent | .interactive => none
  | .configuration id => if s.id == id then s.configuration.map connectorConfiguration else none
  | .fileMode id => if s.id == id then some (optionalText s.filePermissions) else none
  | .directoryMode id => if s.id == id then some (optionalText s.directoryPermissions) else none

theorem get?_table (s : Server) (k : PropertyKey) : s.table.get? k.toValue = s.property? k := by
  cases hc : s.configuration with
  | none => cases k <;> simp [table, properties, hc, Table.get?, sameKey_toValue, property?]
  | some t => cases k <;> simp [table, properties, hc, Table.get?, sameKey_toValue, property?]

def has (k : Value) (s : Server) : Bool := (s.table.get? k).isSome

theorem Owns.of_has {s : Server} {k : Value} (h : s.has k = true) : s.Owns k := by
  obtain ⟨e, he, hek⟩ := (Table.isSome_get?_iff s.table k).mp h
  obtain ⟨p, hp, rfl⟩ := List.mem_map.mp he
  exact ⟨p.1, mem_ofServer_of_mem_properties hp, hek⟩

theorem has_toValue (k : PropertyKey) (s : Server) : s.has k.toValue = (s.property? k).isSome := by
  rw [has, get?_table]

/-- Two servers have a key in common only if they have one id. -/
theorem Owns.id_eq {s t : Server} {k : Value} (hs : s.Owns k) (ht : t.Owns k) : s.id = t.id := by
  obtain ⟨x, hx, hxk⟩ := hs
  obtain ⟨y, hy, hyk⟩ := ht
  have hsame : x.toValue.sameKey y.toValue = true :=
    Value.sameKey_trans hxk (Value.sameKey_comm k y.toValue ▸ hyk)
  rw [sameKey_toValue, decide_eq_true_eq] at hsame
  rw [← member_of_mem_ofServer hx, hsame, member_of_mem_ofServer hy]

theorem mem_keys_iff (s : Server) (k : Value) :
    k ∈ s.table.map (·.1) ↔
      k = (fileMode s.id).toValue ∨ k = (directoryMode s.id).toValue ∨
        s.configuration.isSome ∧ k = (PropertyKey.configuration s.id).toValue := by
  cases hc : s.configuration with
  | none => simp [table, properties, hc]
  | some t => simp [table, properties, hc, or_comm, or_assoc]

end Server

theorem serverProperties_concat (servers : List Server) (s : Server) :
    serverProperties (servers ++ [s]) = (serverProperties servers).putAll s.table := by
  simp [serverProperties, Table.ofEntries, Table.putAll, Server.table]

/-- A value comes from the last server that has its key. -/
theorem serverProperties_get?_eq (servers : List Server) (k : Value) :
    (serverProperties servers).get? k =
      (lastOf? (·.has k) servers).bind (·.table.get? k) := by
  induction servers using List.reverseRecOn with
  | nil => rfl
  | append_singleton servers s ih =>
    rw [serverProperties_concat, Table.get?_putAll s.distinct_table, lastOf?_concat, ih, Server.has]
    cases hk : s.table.get? k with
    | none => simp
    | some v => simp [hk]

theorem isSome_serverProperties_get?_iff (servers : List Server) (k : Value) :
    ((serverProperties servers).get? k).isSome ↔ ∃ s ∈ servers, s.has k = true := by
  rw [serverProperties_get?_eq, ← lastOf?_isSome_iff]
  cases h : lastOf? (·.has k) servers with
  | none => simp
  | some s =>
    have hs : s.has k = true := List.find?_some h
    rw [Server.has] at hs
    simp [hs]

/-- A key that some servers have, each with a value of its own, has that of the last of them. -/
theorem serverProperties_get?_toValue {k : PropertyKey} {p : Server → Bool}
    {v : Server → Option Value} (hk : ∀ s, s.property? k = if p s then v s else none)
    (hv : ∀ s, p s = true → (v s).isSome) (servers : List Server) :
    (serverProperties servers).get? k.toValue = (lastOf? p servers).bind v := by
  have hhas : (fun s => s.has k.toValue) = p := by
    funext s
    rw [Server.has_toValue, hk]
    cases hp : p s with
    | false => rfl
    | true => exact hv s hp
  rw [serverProperties_get?_eq, hhas]
  cases hlast : lastOf? p servers with
  | none => rfl
  | some s =>
    have hs : p s = true := List.find?_some hlast
    rw [Option.bind_some, Option.bind_some, Server.get?_table, hk, if_pos hs]

/-- The configuration of an id is that of its last server with one, stripped. -/
theorem serverProperties_configuration (servers : List Server) (id : String) :
    Option.Rel (fun s v => ∃ t, s.configuration = some t ∧ IsStripped t v)
      (lastOf? (fun s => s.id == id && s.configuration.isSome) servers)
      ((serverProperties servers).get? (PropertyKey.configuration id).toValue) := by
  have hvalue := serverProperties_get?_toValue (k := .configuration id)
    (p := fun s => s.id == id && s.configuration.isSome)
    (v := fun s => s.configuration.map connectorConfiguration)
    (fun s => by cases hc : s.configuration <;> simp [Server.property?, hc])
    (fun s hs => by rw [Option.isSome_map]; exact (Bool.and_eq_true_iff.mp hs).2) servers
  rw [hvalue]
  cases hlast : lastOf? (fun s => s.id == id && s.configuration.isSome) servers with
  | none => exact .none
  | some s =>
    have hs := List.find?_some hlast
    obtain ⟨t, ht⟩ := Option.isSome_iff_exists.mp (Bool.and_eq_true_iff.mp hs).2
    rw [Option.bind_some, ht, Option.map_some]
    exact .some ⟨t, ht, isStripped_connectorConfiguration t⟩

/-- The keys are those of the servers, and no others. -/
theorem mem_keys_serverProperties_iff (servers : List Server) (k : Value) :
    k ∈ (serverProperties servers).map (·.1) ↔ ∃ s ∈ servers, k ∈ s.table.map (·.1) := by
  constructor
  · intro hk
    obtain ⟨e, he, rfl⟩ := List.mem_map.mp hk
    cases Table.fst_mem_of_mem_putAll he with
    | inl hnil =>
      obtain ⟨f, hf, _⟩ := hnil
      cases hf
    | inr hentry =>
      obtain ⟨f, hf, hfe⟩ := hentry
      obtain ⟨p, hp, rfl⟩ := List.mem_map.mp hf
      obtain ⟨s, hs, hps⟩ := List.mem_flatMap.mp hp
      exact ⟨s, hs, hfe ▸ List.mem_map_of_mem (List.mem_map_of_mem hps)⟩
  · intro hk
    obtain ⟨s, hs, hks⟩ := hk
    obtain ⟨e, he, rfl⟩ := List.mem_map.mp hks
    obtain ⟨p, hp, rfl⟩ := List.mem_map.mp he
    have hown := (Table.text_mem_keys_iff s.table p.1.text).mp hks
    exact (Table.text_mem_keys_iff (serverProperties servers) p.1.text).mpr
      ((isSome_serverProperties_get?_iff servers p.1.toValue).mpr ⟨s, hs, hown⟩)

/-- A server touches no keys but its own. -/
theorem serverProperties_get?_without {s : Server} {k : Value} (hk : ¬ s.Owns k)
    (front back : List Server) :
    (serverProperties (front ++ s :: back)).get? k = (serverProperties (front ++ back)).get? k := by
  have hfree : s.has k = false := Bool.eq_false_iff.mpr fun h => hk (.of_has h)
  rw [serverProperties_get?_eq, serverProperties_get?_eq, lastOf?_without hfree]

def twinConfiguration : Table :=
  [(.text transportKey, .text "lightweight"), (.text "timeout", .int 5),
    (.text "headers", .map .writable [(.text transportKey, .list .writable [.text "kept"])])]

def strippedTwin : Value :=
  .map .readOnly [(.text "timeout", .int 5),
    (.text "headers", .map .readOnly [(.text transportKey, .list .readOnly [.text "kept"])])]

def twinServers : List Server :=
  [⟨"own", none, none, none, none, some twinConfiguration, some "0644", none⟩,
    ⟨"other", none, none, none, none, none, some "0600", none⟩,
    ⟨"own", none, none, none, none, none, none, some "0755"⟩]

end ResolverSetup
