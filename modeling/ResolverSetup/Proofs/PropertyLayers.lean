import ResolverSetup.Proofs.OriginGrowth
/-! The properties of a session are four layers, one over the other: what every session starts with,
then the system's, the user's and the servers' properties. -/
namespace ResolverSetup

namespace PropertyKey

theorem append_ne_of_take {head t : String} (h : t.toList.take head.length ≠ head.toList)
    (s : String) : head ++ s ≠ t := by
  intro he
  refine h ?_
  rw [← he, String.toList_append, ← String.length_toList, List.take_left]

/-- The keys of servers are apart from the two keys that every session has. -/
theorem text_ne_of_mem_ofServer {k : PropertyKey} {id : String} (hk : k ∈ ofServer id) :
    k.text ≠ userAgent.text ∧ k.text ≠ interactive.text := by
  simp only [ofServer, List.mem_cons, List.not_mem_nil, or_false] at hk
  rcases hk with rfl | rfl | rfl
  · exact ⟨append_ne_of_take (by decide) id, append_ne_of_take (by decide) id⟩
  · exact ⟨append_ne_of_take (by decide) id, append_ne_of_take (by decide) id⟩
  · exact ⟨append_ne_of_take (by decide) id, append_ne_of_take (by decide) id⟩

end PropertyKey

theorem Server.mem_ofServer_of_mem_properties {s : Server} {e : PropertyKey × Value}
    (he : e ∈ s.properties) : e.1 ∈ PropertyKey.ofServer s.id := by
  rcases List.mem_append.mp he with hc | hm
  · cases hconf : s.configuration with
    | none => simp [hconf] at hc
    | some t =>
      have hec : e = (.configuration s.id, connectorConfiguration t) := by simpa [hconf] using hc
      simp [hec, PropertyKey.ofServer]
  · rcases List.mem_cons.mp hm with rfl | hd
    · simp [PropertyKey.ofServer]
    · have hed := List.mem_singleton.mp hd
      simp [hed, PropertyKey.ofServer]

def Server.Owns (s : Server) (k : Value) : Prop :=
  ∃ key ∈ PropertyKey.ofServer s.id, key.toValue.sameKey k = true

/-- All properties of servers stand under keys of their own. -/
theorem owns_of_serverProperties {servers : List Server} {k v : Value}
    (h : (serverProperties servers).get? k = some v) : ∃ s ∈ servers, s.Owns k := by
  rcases Table.mem_of_get?_putAll h with ⟨e, he, hek, _⟩ | hnil
  · obtain ⟨p, hp, rfl⟩ := List.mem_map.mp he
    obtain ⟨s, hs, hps⟩ := List.mem_flatMap.mp hp
    exact ⟨s, hs, p.1, Server.mem_ofServer_of_mem_properties hps, hek⟩
  · cases hnil

theorem Server.not_owns_seeded (s : Server) :
    ¬ s.Owns PropertyKey.userAgent.toValue ∧ ¬ s.Owns PropertyKey.interactive.toValue := by
  constructor
  · rintro ⟨key, hkey, hsame⟩
    rw [PropertyKey.toValue, PropertyKey.toValue, Value.sameKey_text, beq_iff_eq] at hsame
    exact (PropertyKey.text_ne_of_mem_ofServer hkey).1 hsame
  · rintro ⟨key, hkey, hsame⟩
    rw [PropertyKey.toValue, PropertyKey.toValue, Value.sameKey_text, beq_iff_eq] at hsame
    exact (PropertyKey.text_ne_of_mem_ofServer hkey).2 hsame

theorem serverProperties_get?_eq_none {servers : List Server} {k : Value}
    (h : ∀ s ∈ servers, ¬ s.Owns k) : (serverProperties servers).get? k = none := by
  cases hv : (serverProperties servers).get? k with
  | none => rfl
  | some v =>
    obtain ⟨s, hs, hown⟩ := owns_of_serverProperties hv
    exact absurd hown (h s hs)

namespace Table

def topmost? (layers : List Table) (k : Value) : Option Value :=
  layers.reverse.findSome? (·.get? k)

theorem topmost?_cons (t : Table) (layers : List Table) (k : Value) :
    topmost? (t :: layers) k = (topmost? layers k).or (t.get? k) := by
  rw [topmost?, List.reverse_cons, List.findSome?_append, topmost?]
  cases h : t.get? k with
  | none => simp [h]
  | some v => simp [h]

/-- Tables that are put one into the other are layers. -/
theorem get?_foldl_putAll {layers : List Table} (h : ∀ u ∈ layers, u.Distinct) (t : Table)
    (k : Value) : (layers.foldl putAll t).get? k = topmost? (t :: layers) k := by
  induction layers generalizing t with
  | nil => simp [topmost?]
  | cons u layers ih =>
    have hu := h u List.mem_cons_self
    have hlayers := ih (fun v hv => h v (List.mem_cons_of_mem u hv)) (t.putAll u)
    rw [List.foldl_cons, hlayers, topmost?_cons, topmost?_cons, topmost?_cons, get?_putAll hu,
      Option.or_assoc]

theorem topmost?_isSome_iff (layers : List Table) (k : Value) :
    (topmost? layers k).isSome ↔ ∃ t ∈ layers, (t.get? k).isSome := by
  simp [topmost?, List.findSome?_isSome_iff]

end Table

namespace Builder

/-- The layers of properties, those of the servers aside. The first is there for every session. -/
def innerLayers (agent : String) (q : Request) : List Table :=
  [[(.text "aether.connector.userAgent", .text agent), (.text "aether.interactive", q.interactive)],
    q.systemProperties, q.userProperties]

theorem seededProperties_eq (agent : String) (q : Request) :
    seededProperties agent q =
      [(.text "aether.connector.userAgent", .text agent),
        (.text "aether.interactive", q.interactive)] := rfl

theorem configProperties_get? {q : Request} (hsystem : q.systemProperties.Distinct)
    (huser : q.userProperties.Distinct) (agent : String) (d : Decryption) (k : Value) :
    (configProperties agent q d).get? k =
      Table.topmost? (innerLayers agent q ++ [serverProperties d.servers]) k := by
  have hdistinct : ∀ u ∈ [q.systemProperties, q.userProperties, serverProperties d.servers],
      u.Distinct := by
    simp only [List.mem_cons, List.not_mem_nil, or_false]
    rintro u (rfl | rfl | rfl)
    · exact hsystem
    · exact huser
    · exact Table.distinct_ofEntries _
  rw [innerLayers, ← seededProperties_eq]
  exact Table.get?_foldl_putAll hdistinct (seededProperties agent q) k

/-- What no server owns is decided by the other layers. -/
theorem configProperties_get?_of_not_owns {q : Request} (hsystem : q.systemProperties.Distinct)
    (huser : q.userProperties.Distinct) (agent : String) {d : Decryption} {k : Value}
    (hk : ∀ s ∈ d.servers, ¬ s.Owns k) :
    (configProperties agent q d).get? k = Table.topmost? (innerLayers agent q) k := by
  rw [configProperties_get? hsystem huser, Table.topmost?, List.reverse_append]
  simp [serverProperties_get?_eq_none hk, Table.topmost?]

end Builder

namespace Collaborators
variable {ε : Type}

/-- A built session has a property if one of the four layers has it, with the value of the last of
them. The servers' own keys apart, the user's properties cover the system's, and those the seeded
ones. -/
theorem configProperties_layered (c : Collaborators ε) (q : Request) (s : Session Repository)
    (h : (c.run q).1.outcome = .ok s) (hsystem : q.systemProperties.Distinct)
    (huser : q.userProperties.Distinct) :
    ∃ agent d, (c.userAgent q.systemProperties).outcome = .ok agent ∧
      (c.decrypt q.proxies q.servers).outcome = .ok d ∧
      (∀ k, s.configProperties.current.get? k =
        Table.topmost? (Builder.innerLayers agent q ++ [serverProperties d.servers]) k) ∧
      (∀ k, (s.configProperties.current.get? k).isSome ↔
        ∃ t ∈ Builder.innerLayers agent q ++ [serverProperties d.servers], (t.get? k).isSome) ∧
      (∀ k, (∀ server ∈ d.servers, ¬ server.Owns k) →
        s.configProperties.current.get? k = Table.topmost? (Builder.innerLayers agent q) k) ∧
      (∀ key ∈ ["aether.connector.userAgent", "aether.interactive"],
        s.configProperties.current.get? (.text key) =
          Table.topmost? (Builder.innerLayers agent q) (.text key)) ∧
      s.userProperties.current = q.userProperties ∧
      s.systemProperties.current = q.systemProperties := by
  obtain ⟨agent, _, _, d, _, _, _, _, hagent, _, _, hd, _, _, _, _, rfl, _⟩ :=
    (c.run_ends_iff q (c.run q).2 s).mp ⟨h, rfl⟩
  have hlayers := Builder.configProperties_get? hsystem huser agent d
  refine ⟨agent, d, hagent, hd, hlayers, ?_, ?_, ?_, rfl, rfl⟩
  · intro k
    rw [← Table.topmost?_isSome_iff, ← hlayers]
    rfl
  · intro k hk
    exact Builder.configProperties_get?_of_not_owns hsystem huser agent hk
  · intro key hkey
    refine Builder.configProperties_get?_of_not_owns hsystem huser agent fun server _ => ?_
    simp only [List.mem_cons, List.not_mem_nil, or_false] at hkey
    rcases hkey with rfl | rfl
    · exact server.not_owns_seeded.1
    · exact server.not_owns_seeded.2

def layeredRequest : Request :=
  { settledRequest with
    servers := [{ Bindings.sampleServer with filePermissions := some "0644" }]
    systemProperties :=
      [(.text "aether.interactive", .bool false), (.text "os.name", .text "Plan 9")]
    userProperties :=
      [(.text "aether.connector.perms.fileMode.own", .text "0600"),
        (.text "os.name", .text "Inferno")] }

theorem run_layeredRequest :
    ∃ s, (sampleBuilder.collaborators.run layeredRequest).1.outcome = .ok s := by
  have hremote : (Bindings.sampleBindings.apply layeredRequest.remoteRepositories).outcome =
      .ok [Bindings.sampleLocal] :=
    (Bindings.apply_outcome_eq_ok_iff _ _ _).mpr (.cons Bindings.effective_sampleLocal .nil)
  have hends := (sampleBuilder.collaborators.run_ends_iff layeredRequest _ _).mpr
    ⟨_, _, _, _, _, _, _, _, rfl, rfl, rfl, rfl, rfl, hremote, rfl, rfl, rfl, rfl⟩
  exact ⟨_, hends.1⟩

/-- The server's property covers the user's, the user's that of the system, and the system's what
the session starts with. Nothing covers the user agent. -/
theorem configProperties_layeredRequest :
    layeredRequest.systemProperties.Distinct ∧ layeredRequest.userProperties.Distinct ∧
    ∃ s, (sampleBuilder.collaborators.run layeredRequest).1.outcome = .ok s ∧
      s.configProperties.current.get? (PropertyKey.fileMode "own").toValue = some (.text "0644") ∧
      s.configProperties.current.get? (.text "os.name") = some (.text "Inferno") ∧
      s.configProperties.current.get? (.text "aether.interactive") = some (.bool false) ∧
      s.configProperties.current.get? (.text "aether.connector.userAgent") =
        some (.text "resolver/1.0 (Python 3.11.2; Plan 9 6.1.0)") := by
  have hsystem : layeredRequest.systemProperties.Distinct := by decide
  have huser : layeredRequest.userProperties.Distinct := by decide
  obtain ⟨s, hs⟩ := run_layeredRequest
  obtain ⟨agent, d, hagent, hd, hlayers, _, _, hseeded, _⟩ :=
    configProperties_layered sampleBuilder.collaborators layeredRequest s hs hsystem huser
  cases hd
  cases hagent
  refine ⟨hsystem, huser, s, hs, ?_, ?_, ?_, ?_⟩
  · rw [hlayers]
    rfl
  · rw [hlayers]
    rfl
  · rw [hseeded _ (by simp)]
    rfl
  · rw [hseeded _ (by simp)]
    decide

end Collaborators

end ResolverSetup
