import ResolverSetup.Proofs.HostExclusion
import ResolverSetup.Proofs.UrlParts
/-! Which proxy is selected: the first one that may serve. What is added behind it changes nothing,
and neither do proxies that may not serve, wherever they stand. -/
namespace ResolverSetup

section
variable {α : Type}

def IsFirst (P : α → Prop) (xs : List α) (x : α) : Prop :=
  ∃ front back, xs = front ++ x :: back ∧ P x ∧ ∀ y ∈ front, ¬ P y

/-- The third list holds the elements of the other two, those of each in their own order. -/
inductive Interleaved : List α → List α → List α → Prop
  | nil : Interleaved [] [] []
  | left {x : α} {xs ys zs : List α} (h : Interleaved xs ys zs) : Interleaved (x :: xs) ys (x :: zs)
  | right {y : α} {xs ys zs : List α} (h : Interleaved xs ys zs) :
    Interleaved xs (y :: ys) (y :: zs)

theorem find?_eq_some_iff_isFirst {p : α → Bool} {P : α → Prop} (hp : ∀ x, p x = true ↔ P x)
    (xs : List α) (x : α) : xs.find? p = some x ↔ IsFirst P xs x := by
  rw [List.find?_eq_some_iff_append, IsFirst, hp]
  simp only [Bool.not_eq_true', ← Bool.not_eq_true, hp]
  constructor
  · rintro ⟨hx, front, back, hxs, hfront⟩
    exact ⟨front, back, hxs, hx, hfront⟩
  · rintro ⟨front, back, hxs, hx, hfront⟩
    exact ⟨hx, front, back, hxs, hfront⟩

theorem find?_interleaved {p : α → Bool} {xs ys zs : List α} (h : Interleaved xs ys zs)
    (hys : ∀ y ∈ ys, p y = false) : zs.find? p = xs.find? p := by
  induction h with
  | nil => rfl
  | @left x xs ys zs _ ih => rw [List.find?_cons, List.find?_cons, ih hys]
  | @right y xs ys zs _ ih =>
    obtain ⟨hy, htail⟩ := List.forall_mem_cons.mp hys
    rw [List.find?_cons_of_neg (by simp [hy]), ih htail]

end

def HostPattern.TakesOut (hosts : Option String) (host : String) : Prop :=
  ∃ s, hosts = some s ∧ ∃ ps, Text.Divided isSeparator s.toList ps ∧
    ∃ p ∈ ps, ∃ t, t ≠ [] ∧ Text.Strips Text.isBlank p t ∧
      ∃ filled, Filled t filled ∧ SameText filled host.toList

namespace ProxyRules

structure Registration where
  proxy : Proxy
  nonProxyHosts : Option String

namespace Registration

def own (p : Proxy) : Registration := ⟨p, p.nonProxyHosts⟩

def rule (r : Registration) : ProxyRule := ⟨r.proxy, HostPattern.listOf r.nonProxyHosts⟩

/-- A proxy may serve its protocol, letter case aside, but not the hosts that are taken out. A
protocol or a host that is missing counts as empty. -/
structure MayServe (protocol host : Option String) (r : Registration) : Prop where
  protocol_eq : Text.lowerText r.proxy.protocol = Text.lowerText (protocol.getD "")
  host_left : ¬ HostPattern.TakesOut r.nonProxyHosts (host.getD "")

theorem serves_rule_iff (protocol host : Option String) (r : Registration) :
    r.rule.serves protocol host = true ↔ r.MayServe protocol host := by
  have hexcludes : r.rule.excludes (host.getD "") = true ↔
      HostPattern.TakesOut r.nonProxyHosts (host.getD "") :=
    ProxyRule.excludes_iff r.proxy r.nonProxyHosts (host.getD "")
  rw [ProxyRule.serves, Bool.and_eq_true, beq_iff_eq, Bool.not_eq_true', ← Bool.not_eq_true,
    hexcludes]
  exact ⟨fun h => ⟨h.1, h.2⟩, fun h => ⟨h.protocol_eq, h.host_left⟩⟩

end Registration

def addAll (rules : ProxyRules) (regs : List Registration) : ProxyRules :=
  regs.foldl (fun rules r => rules.add r.proxy r.nonProxyHosts) rules

theorem addAll_cons (rules : ProxyRules) (r : Registration) (regs : List Registration) :
    rules.addAll (r :: regs) = addAll (rules ++ [r.rule]) regs := rfl

theorem addAll_eq (rules : ProxyRules) (regs : List Registration) :
    rules.addAll regs = rules ++ regs.map (·.rule) := by
  induction regs generalizing rules with
  | nil => simp [addAll]
  | cons r regs ih => rw [addAll_cons, ih, List.append_assoc, List.map_cons, List.singleton_append]

theorem ofProxies_eq (ps : List Proxy) : ofProxies ps = addAll [] (ps.map .own) := by
  rw [ofProxies, addAll, List.foldl_map]
  rfl

/-- What was there before goes first, and then the first registration that may serve. -/
theorem select_addAll (rules : ProxyRules) (regs : List Registration)
    (protocol host : Option String) :
    (rules.addAll regs).select protocol host = (rules.select protocol host).or
      ((regs.find? (·.rule.serves protocol host)).map (·.proxy)) := by
  rw [addAll_eq, select, List.find?_append, List.find?_map, Option.map_or, Option.map_map]
  rfl

theorem select_ofProxies (ps : List Proxy) (protocol host : Option String) :
    (ofProxies ps).select protocol host =
      ps.find? fun p => (Registration.own p).rule.serves protocol host := by
  have hself : (fun r : Registration => r.proxy) ∘ Registration.own = id := rfl
  rw [ofProxies_eq, select_addAll, List.find?_map, Option.map_map, hself, Option.map_id_fun]
  rfl

/-- A selection is announced unless the number of its port is too long for a note. -/
theorem announced_eq_ok_iff (x : Option Proxy) :
    announced x = .ok x ↔ ∀ p, x = some p → isWritable p.port = true := by
  cases x with
  | none => simp [announced]
  | some p => by_cases hw : isWritable p.port = true <;> simp [announced, hw]

theorem announced_of_not_isWritable {p : Proxy} (hp : isWritable p.port = false) :
    announced (some p) = .error (.digits .unwritable) := by
  simp [announced, hp]

/-- The first proxy that may serve is selected. Additions that may not serve change no selection,
wherever they stand, and what is added behind a selected proxy does not either. A repository gets
what is selected for the scheme and the host of its URL, as long as the port can be written into a
note. -/
theorem select_firstServing (ps : List Proxy) (rules : ProxyRules) (protocol host : Option String) :
    (∀ p, (ofProxies ps).select protocol host = some p ↔
      IsFirst (fun p => (Registration.own p).MayServe protocol host) ps p) ∧
    ((ofProxies ps).select protocol host = none ↔
      ∀ p ∈ ps, ¬ (Registration.own p).MayServe protocol host) ∧
    ofProxies ps = addAll [] (ps.map .own) ∧
    (∀ regs idle all, Interleaved regs idle all →
      (∀ r ∈ idle, ¬ Registration.MayServe protocol host r) →
      (addAll rules all).select protocol host = (addAll rules regs).select protocol host) ∧
    (∀ regs more, (∃ r ∈ regs, Registration.MayServe protocol host r) →
      (addAll rules (regs ++ more)).select protocol host =
        (addAll rules regs).select protocol host) ∧
    (∀ regs, rules <+: addAll rules regs) ∧
    ∀ (r : Repository) (url : Url), Url.ofText r.url = .ok url →
      ((rules.proxyFor r).outcome = .ok (rules.select (some url.scheme) (some url.host)) ↔
        ∀ p, rules.select (some url.scheme) (some url.host) = some p → isWritable p.port = true) ∧
      ∀ p, rules.select (some url.scheme) (some url.host) = some p → isWritable p.port = false →
        (rules.proxyFor r).outcome = .error (.digits .unwritable) := by
  have hserves := fun p => Registration.serves_rule_iff protocol host (.own p)
  refine ⟨fun p => ?_, ?_, ofProxies_eq ps, ?_, ?_, ?_, ?_⟩
  · rw [select_ofProxies]
    exact find?_eq_some_iff_isFirst hserves ps p
  · simp only [select_ofProxies, List.find?_eq_none, hserves]
  · intro regs idle all hall hidle
    have hnone : ∀ r ∈ idle, r.rule.serves protocol host = false := by
      intro r hr
      rw [← Bool.not_eq_true, Registration.serves_rule_iff]
      exact hidle r hr
    rw [select_addAll, select_addAll, find?_interleaved hall hnone]
  · rintro regs more ⟨r, hr, hregistered⟩
    have hfound : (regs.find? (·.rule.serves protocol host)).isSome = true :=
      List.find?_isSome.mpr ⟨r, hr, (Registration.serves_rule_iff protocol host r).mpr hregistered⟩
    rw [select_addAll, select_addAll, List.find?_append, Option.or_of_isSome hfound]
  · intro regs
    rw [addAll_eq]
    exact List.prefix_append _ _
  · intro r url hurl
    rw [proxyFor_of_read hurl]
    refine ⟨announced_eq_ok_iff _, fun p hp hport => ?_⟩
    rw [hp]
    exact announced_of_not_isWritable hport

def officeProxy : Proxy :=
  ⟨"HTTP", "office.example.com", 8080, none, none, some "*.internal | localhost", none⟩

def fallbackProxy : Proxy := ⟨"http", "fallback.example.com", 3128, none, none, none, none⟩

def endlessProxy : Proxy :=
  ⟨"http", "endless.example.com", Nat.pow 10 maxDigits, none, none, none, none⟩

theorem isWritable_endlessPort : isWritable endlessProxy.port = false := by decide +kernel

theorem mayServe_of_serves {protocol host : Option String} {r : Registration}
    (h : r.rule.serves protocol host = true) : r.MayServe protocol host :=
  (Registration.serves_rule_iff protocol host r).mp h

theorem not_mayServe_of_serves {protocol host : Option String} {r : Registration}
    (h : r.rule.serves protocol host = false) : ¬ r.MayServe protocol host := by
  rw [← Registration.serves_rule_iff, h]
  exact Bool.false_ne_true

def office : Registration := .own officeProxy

def fallback : Registration := .own fallbackProxy

theorem select_samples :
    Interleaved [fallback] [office] [office, fallback] ∧
    (addAll [] [office, fallback]).select (some "http") (some "ci.internal") =
      (addAll [] [fallback]).select (some "http") (some "ci.internal") ∧
    (addAll [] ([office] ++ [fallback])).select (some "http") (some "ci.example") =
      (addAll [] [office]).select (some "http") (some "ci.example") ∧
    ((ofProxies [officeProxy]).proxyFor
        (.declared "ci" "HTTP://ci.example/" defaultLayout)).outcome =
      .ok ((ofProxies [officeProxy]).select (some "http") (some "ci.example")) ∧
    ((ofProxies [endlessProxy]).proxyFor
        (.declared "ci" "http://ci.example" defaultLayout)).outcome =
      .error (.digits .unwritable) := by
  have hall : Interleaved [fallback] [office] [office, fallback] := .right (.left .nil)
  have hexcluded : ¬ office.MayServe (some "http") (some "ci.internal") :=
    not_mayServe_of_serves (by decide +kernel)
  have hserves : office.MayServe (some "http") (some "ci.example") :=
    mayServe_of_serves (by decide +kernel)
  obtain ⟨_, _, _, hidle, _⟩ := select_firstServing [] [] (some "http") (some "ci.internal")
  obtain ⟨_, _, _, _, hmore, _⟩ := select_firstServing [] [] (some "http") (some "ci.example")
  obtain ⟨_, _, _, _, _, _, hplain⟩ := select_firstServing [] (ofProxies [officeProxy]) none none
  obtain ⟨_, _, _, _, _, _, hendless⟩ := select_firstServing [] (ofProxies [endlessProxy]) none none
  refine ⟨hall, ?_, ?_, ?_, ?_⟩
  · exact hidle _ _ _ hall (by simpa using hexcluded)
  · exact hmore _ _ ⟨_, List.mem_singleton.mpr rfl, hserves⟩
  · have hread : Url.ofText "HTTP://ci.example/" = .ok ⟨"http", "ci.example"⟩ := by decide +kernel
    exact (hplain (.declared "ci" _ defaultLayout) _ hread).1.mpr (by decide +kernel)
  · have hread : Url.ofText "http://ci.example" = .ok ⟨"http", "ci.example"⟩ := by decide +kernel
    exact (hendless (.declared "ci" _ defaultLayout) _ hread).2 endlessProxy (by decide +kernel)
      isWritable_endlessPort

/-- Not every repository gets what is selected for its scheme and host. -/
theorem not_forall_proxyFor_eq_select :
    ¬ ∀ (rules : ProxyRules) (r : Repository) (url : Url), Url.ofText r.url = .ok url →
      (rules.proxyFor r).outcome = .ok (rules.select (some url.scheme) (some url.host)) := by
  intro h
  have hread : Url.ofText "http://ci.example" = .ok ⟨"http", "ci.example"⟩ := by decide +kernel
  have hselect : (ofProxies [endlessProxy]).select (some "http") (some "ci.example") =
      some endlessProxy := by decide +kernel
  have hfor := h (ofProxies [endlessProxy]) (.declared "ci" _ defaultLayout) _ hread
  rw [proxyFor_of_read hread, hselect, announced_of_not_isWritable isWritable_endlessPort] at hfor
  cases hfor

end ProxyRules
end ResolverSetup
