import ResolverSetup.Proofs.EarliestBest
import ResolverSetup.Proofs.LetterCase
import ResolverSetup.Proofs.TextTokens
import ResolverSetup.Proxy.Choice
/-! URLs that are put together of a scheme, user information, a host, a port and a rest. Whatever
the other parts imitate, the scheme and the host are read back, and nothing else decides about
mirrors and proxies. -/
namespace ResolverSetup

namespace Url

theorem bne_of_notMem {c : Char} {s : List Char} (h : c ∉ s) : ∀ d ∈ s, (d != c) = true := by
  intro d hd
  have hne : d ≠ c := fun e => h (e ▸ hd)
  simpa using hne

theorem cutAt_append {c : Char} {s : List Char} (h : c ∉ s) (r : List Char) :
    cutAt c (s ++ c :: r) = (s, some r) := by
  have hhead : ∀ d, (c :: r).head? = some d → (d != c) = false := by simp
  rw [cutAt, Text.takeWhile_append_eq (bne_of_notMem h) hhead,
    Text.dropWhile_append_eq (bne_of_notMem h) hhead]

theorem cutAt_of_notMem {c : Char} {s : List Char} (h : c ∉ s) : cutAt c s = (s, none) := by
  rw [cutAt, List.takeWhile_eq_self_iff.mpr (bne_of_notMem h),
    List.dropWhile_eq_nil_iff.mpr (bne_of_notMem h)]

theorem afterLast_append {c : Char} {t : List Char} (h : c ∉ t) (s : List Char) :
    afterLast c (s ++ c :: t) = t := by
  have hhead : ∀ d, (c :: s.reverse).head? = some d → (d != c) = false := by simp
  have hrev : (s ++ c :: t).reverse = t.reverse ++ c :: s.reverse := by simp
  rw [afterLast, hrev, Text.takeWhile_append_eq (bne_of_notMem (by simpa using h)) hhead,
    List.reverse_reverse]

theorem afterLast_of_notMem {c : Char} {s : List Char} (h : c ∉ s) : afterLast c s = s := by
  rw [afterLast, List.takeWhile_eq_self_iff.mpr (bne_of_notMem (by simpa using h)),
    List.reverse_reverse]

def isKept (c : Char) : Bool := c != '\t' && c != '\n' && c != '\r'

theorem clean_eq (s : List Char) : clean s = (s.dropWhile (·.toNat ≤ 0x20)).filter isKept := rfl

def isUserChar (c : Char) : Bool :=
  c.toNat < 0x80 && !endsAuthority c && c != '[' && c != ']'

def isHostChar (c : Char) : Bool :=
  isUserChar c && 0x20 < c.toNat && c != '@' && c != ':' && c != '%'

theorem notMem_of_all {p : Char → Bool} {s : List Char} (h : s.all p = true) {c : Char}
    (hc : p c = false) : c ∉ s := by
  intro hmem
  rw [List.all_eq_true.mp h c hmem] at hc
  cases hc

theorem isUserChar_of_isHostChar {c : Char} (h : isHostChar c = true) : isUserChar c = true := by
  simp only [isHostChar, Bool.and_eq_true] at h
  exact h.1.1.1.1

theorem isUserChar_of_isDigit {c : Char} (h : c.isDigit = true) : isUserChar c = true := by
  have hascii : c.toNat < 0x80 := Text.toNat_lt_of_isAlphanum (by simp [Char.isAlphanum, h])
  exact Text.ascii_induction (P := fun c => c.isDigit = true → isUserChar c = true) (by decide)
    hascii h

theorem toNat_lt_of_isSchemeChar {c : Char} (h : isSchemeChar c = true) : c.toNat < 0x80 := by
  simp only [isSchemeChar, Bool.or_eq_true, beq_iff_eq] at h
  obtain ((halnum | rfl) | rfl) | rfl := h
  · exact Text.toNat_lt_of_isAlphanum halnum
  all_goals decide

theorem toNat_lt_of_isUserChar {c : Char} (h : isUserChar c = true) : c.toNat < 0x80 := by
  simp only [isUserChar, Bool.and_eq_true, decide_eq_true_eq] at h
  exact h.1.1.1

theorem not_blank_of_isAlpha {c : Char} (h : c.isAlpha = true) : ¬ c.toNat ≤ 0x20 := by
  intro hle
  have hnone := Text.ascii_induction (P := fun c => c.toNat ≤ 0x20 → c.isAlpha = false)
    (by decide) (by omega) hle
  rw [h] at hnone
  cases hnone

theorem filter_isKept {p : Char → Bool} {s : List Char} (h : s.all p = true)
    (hp : p '\t' = false ∧ p '\n' = false ∧ p '\r' = false) : s.filter isKept = s := by
  refine List.filter_eq_self.mpr fun c hc => ?_
  have hne : ∀ d, p d = false → c ≠ d := fun d hd e => notMem_of_all h hd (e ▸ hc)
  simp [isKept, hne _ hp.1, hne _ hp.2.1, hne _ hp.2.2]

theorem checkDelimiters_of_all {s : List Char} (h : s.all isUserChar = true) :
    checkDelimiters s = .ok () := by
  have hout : ∀ n ∈ disguised, 0x80 ≤ n := by decide
  have hnone : s.any (disguised.contains ·.toNat) = false := by
    refine List.any_eq_false.mpr fun c hc hmem => ?_
    have hge := hout _ (List.contains_iff_mem.mp hmem)
    have hlt := toNat_lt_of_isUserChar (List.all_eq_true.mp h c hc)
    omega
  rw [checkDelimiters, hnone]
  rfl

theorem checkBrackets_of_all {s : List Char} (h : s.all isUserChar = true) :
    checkBrackets s = .ok () := by
  have hopen : s.contains '[' = false := by simpa using notMem_of_all h rfl
  have hclose : s.contains ']' = false := by simpa using notMem_of_all h rfl
  rw [checkBrackets, hopen, hclose]

theorem isExternal_eq_false_iff (u : Url) : u.isExternal = false ↔
    u.scheme = "file" ∨ u.host = "localhost" ∨ u.host = "127.0.0.1" := by
  rw [isExternal, Bool.not_eq_false', Bool.or_eq_true, beq_iff_eq, List.contains_iff_mem]
  simp [localHosts]

theorem isExternalText_of_read {s : String} {url : Url} (h : ofText s = .ok url) :
    isExternalText (some s) = .ok url.isExternal := by
  rw [isExternalText, h]
  rfl

end Url

/-- The parts of a URL as they are written, each free of what would end it early. User information
may hold colons and more than one `@`; what begins with a slash, a query or a fragment may hold
anything. -/
structure UrlParts where
  scheme : List Char
  userInfo : Option (List Char)
  host : List Char
  port : Option (List Char)
  rest : List Char
  scheme_head : scheme.head?.any Char.isAlpha = true
  scheme_chars : scheme.all Url.isSchemeChar = true
  userInfo_chars : userInfo.all (·.all Url.isUserChar) = true
  host_chars : host.all Url.isHostChar = true
  port_chars : port.all (·.all Char.isDigit) = true
  rest_head : rest.head?.all Url.endsAuthority = true

namespace UrlParts
variable (u : UrlParts)

def userPart : List Char :=
  match u.userInfo with
  | none => []
  | some s => s ++ ['@']

def portPart : List Char :=
  match u.port with
  | none => []
  | some s => ':' :: s

def authority : List Char := u.userPart ++ (u.host ++ u.portPart)

def chars : List Char := u.scheme ++ ':' :: '/' :: '/' :: (u.authority ++ u.rest)

def text : String := String.ofList u.chars

def url : Url := ⟨String.ofList (u.scheme.map Char.toLower), String.ofList (u.host.map Char.toLower)⟩

theorem userInfo_all {s : List Char} (h : u.userInfo = some s) : s.all Url.isUserChar = true := by
  simpa [h] using u.userInfo_chars

theorem port_all {s : List Char} (h : u.port = some s) : s.all Char.isDigit = true := by
  simpa [h] using u.port_chars

theorem userPart_all : u.userPart.all Url.isUserChar = true := by
  rw [userPart]
  cases h : u.userInfo with
  | none => rfl
  | some s =>
    rw [List.all_append, u.userInfo_all h]
    rfl

theorem portPart_all : u.portPart.all Url.isUserChar = true := by
  rw [portPart]
  cases h : u.port with
  | none => rfl
  | some s =>
    have hs : s.all Url.isUserChar = true := by
      refine List.all_eq_true.mpr fun c hc => ?_
      exact Url.isUserChar_of_isDigit (List.all_eq_true.mp (u.port_all h) c hc)
    rw [List.all_cons, hs]
    rfl

theorem host_all : u.host.all Url.isUserChar = true :=
  List.all_eq_true.mpr fun c hc =>
    Url.isUserChar_of_isHostChar (List.all_eq_true.mp u.host_chars c hc)

theorem authority_all : u.authority.all Url.isUserChar = true := by
  rw [authority, List.all_append, List.all_append, userPart_all, host_all, portPart_all]
  rfl

/-! Cleaning takes characters out of the user information and the rest, and leaves parts of a URL
again. -/

theorem head_filter_isKept : (u.rest.filter Url.isKept).head?.all Url.endsAuthority = true := by
  have h := u.rest_head
  cases hrest : u.rest with
  | nil => rfl
  | cons c r =>
    rw [hrest] at h
    have hc : Url.endsAuthority c = true := h
    have hkept : Url.isKept c = true := by
      simp only [Url.endsAuthority, Bool.or_eq_true, beq_iff_eq] at hc
      obtain (rfl | rfl) | rfl := hc <;> rfl
    rw [List.filter_cons_of_pos hkept]
    exact hc

theorem userInfo_filter_isKept :
    (u.userInfo.map (·.filter Url.isKept)).all (·.all Url.isUserChar) = true := by
  cases h : u.userInfo with
  | none => rfl
  | some s =>
    have hs := List.all_eq_true.mp (u.userInfo_all h)
    exact List.all_eq_true.mpr fun c hc => hs c (List.mem_filter.mp hc).1

def cleaned : UrlParts :=
  { u with
    userInfo := u.userInfo.map (·.filter Url.isKept)
    rest := u.rest.filter Url.isKept
    userInfo_chars := u.userInfo_filter_isKept
    rest_head := u.head_filter_isKept }

theorem userPart_cleaned : u.cleaned.userPart = u.userPart.filter Url.isKept := by
  have h : u.cleaned.userInfo = u.userInfo.map (·.filter Url.isKept) := rfl
  rw [userPart, userPart, h]
  cases u.userInfo with
  | none => rfl
  | some s => exact (List.filter_append s ['@']).symm

theorem filter_portPart : u.portPart.filter Url.isKept = u.portPart := by
  rw [portPart]
  cases hp : u.port with
  | none => rfl
  | some s =>
    have hs : s.filter Url.isKept = s := Url.filter_isKept (u.port_all hp) (by decide)
    rw [List.filter_cons_of_pos rfl, hs]

theorem authority_cleaned : u.cleaned.authority = u.authority.filter Url.isKept := by
  have hhost : u.host.filter Url.isKept = u.host := Url.filter_isKept u.host_chars (by decide)
  rw [authority, authority, List.filter_append, List.filter_append, hhost, filter_portPart,
    userPart_cleaned]
  rfl

theorem scheme_eq_cons : ∃ c name, u.scheme = c :: name ∧ c.isAlpha = true := by
  have h := u.scheme_head
  cases hs : u.scheme with
  | nil =>
    rw [hs] at h
    cases h
  | cons c name =>
    rw [hs] at h
    exact ⟨c, name, rfl, h⟩

theorem clean_chars : Url.clean u.chars = u.cleaned.chars := by
  obtain ⟨c, name, hs, halpha⟩ := u.scheme_eq_cons
  have hblank : ¬ c.toNat ≤ 0x20 := Url.not_blank_of_isAlpha halpha
  have hfront : u.chars.dropWhile (·.toNat ≤ 0x20) = u.chars := by
    rw [chars, hs, List.cons_append, List.dropWhile_cons_of_neg (by simpa using hblank)]
  have hscheme : u.scheme.filter Url.isKept = u.scheme :=
    Url.filter_isKept u.scheme_chars (by decide)
  have hslash : Url.isKept '/' = true := rfl
  rw [Url.clean_eq, hfront, chars, chars, authority_cleaned, List.filter_append, hscheme,
    List.filter_cons_of_pos rfl, List.filter_cons_of_pos hslash, List.filter_cons_of_pos hslash,
    List.filter_append]
  rfl

/-! The parts of the text are found one after the other. -/

theorem splitScheme_chars : Url.splitScheme u.chars =
    (u.scheme.map Char.toLower, '/' :: '/' :: (u.authority ++ u.rest)) := by
  have hcolon : ':' ∉ u.scheme := Url.notMem_of_all u.scheme_chars rfl
  have hlower : Text.lower u.scheme = u.scheme.map Char.toLower :=
    Text.lower_of_ascii fun c hc =>
      Url.toNat_lt_of_isSchemeChar (List.all_eq_true.mp u.scheme_chars c hc)
  have hchars := u.scheme_chars
  obtain ⟨c, name, hs, halpha⟩ := u.scheme_eq_cons
  rw [Url.splitScheme, chars, Url.cutAt_append hcolon, ← hlower]
  rw [hs] at hchars ⊢
  have hname : name.all Url.isSchemeChar = true := (Bool.and_eq_true_iff.mp hchars).2
  simp [halpha, hname]

theorem authority_chars : Url.authority ('/' :: '/' :: (u.authority ++ u.rest)) = u.authority := by
  refine Text.takeWhile_append_eq (fun c hc => ?_) fun c hc => ?_
  · have h := List.all_eq_true.mp u.authority_all c hc
    simp only [Url.isUserChar, Bool.and_eq_true] at h
    exact h.1.1.2
  · have h : Url.endsAuthority c = true := by simpa [hc] using u.rest_head
    rw [h]
    rfl

theorem hostAndPort_authority : Url.hostAndPort u.authority = u.host ++ u.portPart := by
  have hhost : '@' ∉ u.host := Url.notMem_of_all u.host_chars rfl
  have hport : '@' ∉ u.portPart := by
    rw [portPart]
    cases hp : u.port with
    | none => simp
    | some s => simpa using Url.notMem_of_all (u.port_all hp) rfl
  have hnot : '@' ∉ u.host ++ u.portPart := by simp [hhost, hport]
  -- the last `@` is the one that ends the user information, however many it holds
  rw [Url.hostAndPort, authority, userPart]
  cases u.userInfo with
  | none => exact Url.afterLast_of_notMem hnot
  | some s =>
    rw [List.append_assoc]
    exact Url.afterLast_append hnot s

theorem rawHost_authority : Url.rawHost u.authority = u.host := by
  have hopen : '[' ∉ u.host ++ u.portPart := by
    have hmem := Url.notMem_of_all u.authority_all (c := '[') rfl
    exact fun h => hmem (List.mem_append_right _ h)
  have hcolon : ':' ∉ u.host := Url.notMem_of_all u.host_chars rfl
  have hcut : (Url.cutAt ':' (u.host ++ u.portPart)).1 = u.host := by
    rw [portPart]
    cases u.port with
    | none => rw [List.append_nil, Url.cutAt_of_notMem hcolon]
    | some s => rw [Url.cutAt_append hcolon]
  rw [Url.rawHost, hostAndPort_authority, Url.cutAt_of_notMem hopen]
  exact hcut

theorem normalHost_host : Url.normalHost u.host = u.host.map Char.toLower := by
  have hzone : ∀ c ∈ u.host, (c != '%') = true :=
    Url.bne_of_notMem (Url.notMem_of_all u.host_chars rfl)
  rw [Url.normalHost, List.takeWhile_eq_self_iff.mpr hzone, List.dropWhile_eq_nil_iff.mpr hzone,
    List.append_nil]
  refine Text.lower_of_ascii fun c hc => ?_
  exact Url.toNat_lt_of_isUserChar (List.all_eq_true.mp u.host_all c hc)

theorem ofChars_chars : Url.ofChars u.chars = .ok u.url := by
  -- all that follows sees the cleaned parts, whose scheme and host are those of the URL
  have hbrackets := Url.checkBrackets_of_all u.cleaned.authority_all
  have hdelimiters := Url.checkDelimiters_of_all u.cleaned.authority_all
  rw [Url.ofChars, clean_chars, splitScheme_chars]
  simp only [authority_chars, hbrackets, hdelimiters, rawHost_authority, normalHost_host]
  rfl

theorem ofText_text : Url.ofText u.text = .ok u.url := by
  rw [Url.ofText, text, String.toList_ofList, ofChars_chars]

end UrlParts

/-! Choices see no more of a URL than what is read of it. -/

theorem Mirror.choose_of_read {s : String} {url : Url} (h : Url.ofText s = .ok url)
    (ms : List Mirror) (id : String) (layout : Value) : choose ms id layout (some s) =
      .ok (if id = "" then none else best ms id layout url.isExternal) := by
  by_cases hid : id = ""
  · rw [if_pos hid, hid, choose_of_id_empty]
  · rw [if_neg hid, choose_of_external hid (Url.isExternalText_of_read h)]

def ProxyRules.announced : Option Proxy → Except RouteFault (Option Proxy)
  | none => .ok none
  | some p => if isWritable p.port then .ok (some p) else .error (.digits .unwritable)

theorem ProxyRules.proxyFor_of_read {r : Repository} {url : Url} (h : Url.ofText r.url = .ok url)
    (rules : ProxyRules) : (rules.proxyFor r).outcome =
      announced (rules.select (some url.scheme) (some url.host)) := by
  have hread : (Url.ofText r.url).mapError RouteFault.url = .ok url := by
    rw [h]
    rfl
  rw [proxyFor, Traced.ofExcept_bind_outcome, hread, Except.bind]
  cases rules.select (some url.scheme) (some url.host) with
  | none => rfl
  | some p =>
    change (Traced.ofExcept (usedEntry r p) >>= _).outcome = _
    rw [Traced.ofExcept_bind_outcome, usedEntry, announced]
    by_cases hw : isWritable p.port = true
    · rw [if_pos hw, if_pos hw]
      rfl
    · rw [if_neg hw, if_neg hw]
      rfl

/-- A URL is read by its scheme and its host, in lower case, and decides through them alone whether
it is external, which mirror takes its place and which proxy serves it. -/
theorem UrlParts.decisions_of_schemeAndHost :
    (∀ u : UrlParts, Url.ofText u.text =
      .ok ⟨String.ofList (u.scheme.map Char.toLower), String.ofList (u.host.map Char.toLower)⟩) ∧
    (∀ u : UrlParts, ∃ external, Url.isExternalText (some u.text) = .ok external ∧
      (external = false ↔ u.url.scheme = "file" ∨ u.url.host = "localhost" ∨
        u.url.host = "127.0.0.1")) ∧
    ∀ u v : UrlParts, u.scheme.map Char.toLower = v.scheme.map Char.toLower →
      u.host.map Char.toLower = v.host.map Char.toLower →
      (∀ ms id layout, ∃ answer, Mirror.choose ms id layout (some u.text) = .ok answer ∧
        Mirror.choose ms id layout (some v.text) = .ok answer) ∧
      ∀ (rules : ProxyRules) (r s : Repository), r.url = u.text → s.url = v.text →
        (rules.proxyFor r).outcome =
          ProxyRules.announced (rules.select (some u.url.scheme) (some u.url.host)) ∧
        (rules.proxyFor s).outcome = (rules.proxyFor r).outcome := by
  refine ⟨fun u => u.ofText_text, fun u => ?_, fun u v hscheme hhost => ?_⟩
  · exact ⟨_, Url.isExternalText_of_read u.ofText_text, u.url.isExternal_eq_false_iff⟩
  · have hread : Url.ofText v.text = .ok u.url := by rw [v.ofText_text, url, url, hscheme, hhost]
    refine ⟨fun ms id layout => ?_, fun rules r s hr hs => ?_⟩
    · exact ⟨_, Mirror.choose_of_read u.ofText_text ms id layout,
        Mirror.choose_of_read hread ms id layout⟩
    · have hu : Url.ofText r.url = .ok u.url := by rw [hr, u.ofText_text]
      have hv : Url.ofText s.url = .ok u.url := by rw [hs, hread]
      rw [ProxyRules.proxyFor_of_read hu, ProxyRules.proxyFor_of_read hv]
      exact ⟨rfl, rfl⟩

def disguisedUrl : UrlParts where
  scheme := "HTTP".toList
  userInfo := some "u@localhost:80".toList
  host := "Repo.example.COM".toList
  port := some "8081".toList
  rest := "/a@b://localhost".toList
  scheme_head := by decide
  scheme_chars := by decide
  userInfo_chars := by decide
  host_chars := by decide
  port_chars := by decide
  rest_head := by decide

def plainUrl : UrlParts where
  scheme := "http".toList
  userInfo := none
  host := "repo.example.com".toList
  port := none
  rest := []
  scheme_head := by decide
  scheme_chars := by decide
  userInfo_chars := by decide
  host_chars := by decide
  port_chars := by decide
  rest_head := by decide

def externalMirror : Mirror :=
  ⟨"all", "https://all.example.com", "external:*", .text "default", none, false⟩

def httpRules : ProxyRules := ProxyRules.ofProxies
  [⟨"http", "proxy.example.com", 8080, none, none, some "localhost|*.local", none⟩]

theorem UrlParts.decisions_of_disguisedUrl :
    disguisedUrl.text = "HTTP://u@localhost:80@Repo.example.COM:8081/a@b://localhost" ∧
      Url.ofText disguisedUrl.text = .ok ⟨"http", "repo.example.com"⟩ ∧
      disguisedUrl.scheme.map Char.toLower = plainUrl.scheme.map Char.toLower ∧
      disguisedUrl.host.map Char.toLower = plainUrl.host.map Char.toLower ∧
      (∃ answer,
        Mirror.choose [externalMirror] "central" defaultLayout (some disguisedUrl.text) = .ok answer ∧
        Mirror.choose [externalMirror] "central" defaultLayout (some plainUrl.text) = .ok answer) ∧
      (httpRules.proxyFor (.declared "plain" plainUrl.text defaultLayout)).outcome =
        (httpRules.proxyFor (.declared "central" disguisedUrl.text defaultLayout)).outcome := by
  obtain ⟨hread, -, halike⟩ := UrlParts.decisions_of_schemeAndHost
  have hscheme : disguisedUrl.scheme.map Char.toLower = plainUrl.scheme.map Char.toLower := by decide
  have hhost : disguisedUrl.host.map Char.toLower = plainUrl.host.map Char.toLower := by decide
  obtain ⟨hmirror, hproxy⟩ := halike _ _ hscheme hhost
  exact ⟨by decide, hread _, hscheme, hhost, hmirror _ _ _, (hproxy _ _ _ rfl rfl).2⟩

end ResolverSetup
