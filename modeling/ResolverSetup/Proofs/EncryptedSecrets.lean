import ResolverSetup.Decryption
import ResolverSetup.Proofs.TextTokens
/-! What a decrypter that only reports has to say: one complaint about each encrypted secret, in the
order in which the secrets stand. -/
namespace ResolverSetup.Decryption

def Braced (s : List Char) : Prop :=
  ∃ t, s = '\x7b' :: (t ++ ['\x7d']) ∧ '\x7b' ∉ t ∧ '\x7d' ∉ t

def Encrypted (v : Value) : Prop :=
  ∃ s t, v = .text s ∧ Text.Strips Text.isBlank s.toList t ∧ Braced t

theorem all_ne_brace_iff (s : List Char) :
    (s.all fun c => c != '\x7b' && c != '\x7d') = true ↔ '\x7b' ∉ s ∧ '\x7d' ∉ s := by
  simp only [List.all_eq_true, Bool.and_eq_true, bne_iff_ne]
  constructor
  · intro h
    exact ⟨fun hmem => (h _ hmem).1 rfl, fun hmem => (h _ hmem).2 rfl⟩
  · rintro ⟨hopen, hclose⟩ c hc
    exact ⟨fun e => hopen (e ▸ hc), fun e => hclose (e ▸ hc)⟩

theorem isBraced_iff (s : List Char) : isBraced s = true ↔ Braced s := by
  constructor
  · intro h
    fun_cases isBraced s with
    | case1 r =>
      obtain ⟨hlast, hfree⟩ := Bool.and_eq_true_iff.mp h
      obtain ⟨t, rfl⟩ := List.getLast?_eq_some_iff.mp (beq_iff_eq.mp hlast)
      rw [List.dropLast_concat] at hfree
      exact ⟨t, rfl, (all_ne_brace_iff t).mp hfree⟩
    | case2 s hs =>
      rw [isBraced.eq_2 s hs] at h
      cases h
  · rintro ⟨t, rfl, hfree⟩
    rw [isBraced, List.getLast?_concat, List.dropLast_concat, (all_ne_brace_iff t).mpr hfree]
    rfl

theorem isEncrypted_text_iff (s : String) :
    isEncrypted (.text s) = true ↔ ∃ t, Text.Strips Text.isBlank s.toList t ∧ Braced t := by
  simp only [isEncrypted, Text.trim_eq_strip, isBraced_iff, ← Text.strip_eq_iff, exists_eq_left']

theorem isEncrypted_iff (v : Value) : isEncrypted v = true ↔ Encrypted v := by
  cases v with
  | text s => simp [isEncrypted_text_iff, Encrypted]
  | _ => simp [isEncrypted, Encrypted]

instance : DecidablePred Encrypted := fun v => decidable_of_iff _ (isEncrypted_iff v)

theorem isEncrypted_padded {before after : String}
    (hbefore : ∀ c ∈ before.toList, Text.isBlank c = true)
    (hafter : ∀ c ∈ after.toList, Text.isBlank c = true) (s : String) :
    isEncrypted (.text (before ++ s ++ after)) = isEncrypted (.text s) := by
  have htrim : Text.trim (before ++ s ++ after).toList = Text.trim s.toList := by
    rw [String.toList_append, String.toList_append, Text.trim_eq_strip, Text.trim_eq_strip,
      Text.strip_padded hbefore hafter]
  rw [isEncrypted, isEncrypted, htrim]

inductive SecretPlace
  | proxyPassword (p : Proxy)
  | serverPassword (s : Server)
  | serverPassphrase (s : Server)

namespace SecretPlace

def secret : SecretPlace → Option Value
  | proxyPassword p => p.password
  | serverPassword s => s.password
  | serverPassphrase s => s.passphrase

/-- The complaint about a secret says what it is and whose. -/
def complaint : SecretPlace → String
  | proxyPassword p => problemText "password" ("proxy " ++ p.label)
  | serverPassword s => problemText "password" ("server " ++ s.id)
  | serverPassphrase s => problemText "passphrase" ("server " ++ s.id)

def all (ps : List Proxy) (ss : List Server) : List SecretPlace :=
  ps.map proxyPassword ++ ss.flatMap fun s => [serverPassword s, serverPassphrase s]

def HoldsEncrypted (x : SecretPlace) : Prop := ∃ v ∈ x.secret, Encrypted v

theorem isSealed_secret_iff (x : SecretPlace) : isSealed x.secret = true ↔ x.HoldsEncrypted := by
  simp only [isSealed, Option.any_eq_true, isEncrypted_iff, HoldsEncrypted, Option.mem_def]

instance : DecidablePred HoldsEncrypted := fun x => decidable_of_iff _ x.isSealed_secret_iff

def complaints (xs : List SecretPlace) : List String :=
  (xs.filter fun x => x.HoldsEncrypted).map complaint

theorem complaints_append (xs ys : List SecretPlace) :
    complaints (xs ++ ys) = complaints xs ++ complaints ys := by
  rw [complaints, List.filter_append, List.map_append]
  rfl

theorem complaints_flatMap {α : Type} (places : α → List SecretPlace) (as : List α) :
    complaints (as.flatMap places) = as.flatMap fun a => complaints (places a) := by
  rw [complaints, List.filter_flatMap, List.map_flatMap]
  rfl

theorem complaints_singleton (x : SecretPlace) :
    complaints [x] = if isSealed x.secret then [x.complaint] else [] := by
  by_cases h : isSealed x.secret = true
  · simp [complaints, h, x.isSealed_secret_iff.mp h]
  · have hnot : ¬ x.HoldsEncrypted := fun hx => h (x.isSealed_secret_iff.mpr hx)
    simp [complaints, h, hnot]

end SecretPlace

open SecretPlace

theorem proxyProblems_eq_complaints (p : Proxy) :
    proxyProblems p = complaints [proxyPassword p] := by
  rw [complaints_singleton]
  rfl

theorem serverProblems_eq_complaints (s : Server) :
    serverProblems s = complaints [serverPassword s, serverPassphrase s] := by
  have hpair : [serverPassword s, serverPassphrase s] =
      [serverPassword s] ++ [serverPassphrase s] := rfl
  rw [hpair, complaints_append, complaints_singleton, complaints_singleton]
  rfl

theorem problems_passthrough (ps : List Proxy) (ss : List Server) :
    (passthrough ps ss).problems = complaints (SecretPlace.all ps ss) := by
  rw [SecretPlace.all, complaints_append, List.map_eq_flatMap, complaints_flatMap,
    complaints_flatMap]
  simp only [← proxyProblems_eq_complaints, ← serverProblems_eq_complaints]
  rfl

/-- A proxy goes by its id, or by its host if the id is missing or empty. -/
theorem label_of_id {p : Proxy} {id : String} (h : p.id = some id) (hid : id ≠ "") :
    p.label = id := by
  rw [Proxy.label, h]
  exact if_neg (by simpa using hid)

theorem label_of_no_id {p : Proxy} (h : p.id = none ∨ p.id = some "") : p.label = p.host := by
  rw [Proxy.label]
  cases h with
  | inl h => rw [h]
  | inr h => rw [h]; rfl

/-- Proxies and servers are passed on as they are. There is one complaint about each encrypted
secret, those of the proxies first, and then those of each server, the password before the
passphrase. A value is encrypted if it is a text in braces; blanks around it do not matter. -/
theorem passthrough_complaints :
    (∀ ps ss, (passthrough ps ss).proxies = ps ∧ (passthrough ps ss).servers = ss ∧
      (passthrough ps ss).problems =
        ((SecretPlace.all ps ss).filter fun x => x.HoldsEncrypted).map complaint) ∧
    (∀ (p : Proxy) (id : String), p.id = some id → id ≠ "" → p.label = id) ∧
    (∀ p : Proxy, p.id = none ∨ p.id = some "" → p.label = p.host) ∧
    (∀ v, isEncrypted v = true ↔ ∃ s t, v = .text s ∧
      Text.Strips Text.isBlank s.toList ('\x7b' :: (t ++ ['\x7d'])) ∧ '\x7b' ∉ t ∧ '\x7d' ∉ t) ∧
    ∀ before s after : String, (∀ c ∈ before.toList, Text.isBlank c = true) →
      (∀ c ∈ after.toList, Text.isBlank c = true) →
      isEncrypted (.text (before ++ s ++ after)) = isEncrypted (.text s) := by
  refine ⟨fun ps ss => ⟨rfl, rfl, problems_passthrough ps ss⟩, fun _ _ => label_of_id,
    fun _ => label_of_no_id, fun v => ?_, fun _ s _ hb ha => isEncrypted_padded hb ha s⟩
  rw [isEncrypted_iff]
  constructor
  · rintro ⟨s, _, hv, hstrips, t, rfl, hfree⟩
    exact ⟨s, t, hv, hstrips, hfree⟩
  · rintro ⟨s, t, hv, hstrips, hfree⟩
    exact ⟨s, _, hv, hstrips, t, rfl, hfree⟩

def lockedProxy (id : Option String) : Proxy :=
  ⟨"http", "proxy.example.com", 8080, none, some (.text " \x7block\x7d"), none, id⟩

def lockedServer : Server :=
  ⟨"central", none, some (.text "\x7bone\ntwo\x7d\n"), none, some (.text "\x7bodd\x7d\x7d"), none,
    none, none⟩

theorem passthrough_lockedServer :
    (passthrough [lockedProxy (some ""), lockedProxy (some "corp")] [lockedServer]).problems =
      ["Failed to decrypt password for proxy proxy.example.com: no decryption key configured",
        "Failed to decrypt password for proxy corp: no decryption key configured",
        "Failed to decrypt password for server central: no decryption key configured"] ∧
    (lockedProxy (some "")).label = "proxy.example.com" ∧
    (lockedProxy (some "corp")).label = "corp" ∧
    isEncrypted (.text ("\t" ++ "\x7bone\ntwo\x7d" ++ "\n")) =
      isEncrypted (.text "\x7bone\ntwo\x7d") := by
  obtain ⟨hpassed, hid, hhost, _, hpadded⟩ := passthrough_complaints
  have hproblems := (hpassed [lockedProxy (some ""), lockedProxy (some "corp")] [lockedServer]).2.2
  have hbefore : ∀ c ∈ "\t".toList, Text.isBlank c = true := List.all_eq_true.mp (by decide +kernel)
  have hafter : ∀ c ∈ "\n".toList, Text.isBlank c = true := List.all_eq_true.mp (by decide +kernel)
  exact ⟨hproblems.trans (by decide +kernel), hhost _ (.inr rfl), hid _ _ rfl (by decide),
    hpadded _ _ _ hbefore hafter⟩

end ResolverSetup.Decryption
