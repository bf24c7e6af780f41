import Mathlib.Tactic.Tauto
import ResolverSetup.CommandLine
import ResolverSetup.Proofs.BuildOutcome
import ResolverSetup.Proofs.ConsoleLogging
import ResolverSetup.Proofs.DocumentFaults
/-! How a run ends, by its document: without a request, without a session, or with one. Some faults
of documents leave the program in none of these ways. -/
namespace ResolverSetup

namespace Request

def StoreFree (q : Request) (tree : FileTree) : Prop :=
  tree.look q.localRepository.text = .ok none ∨
    tree.look q.localRepository.text = .ok (some .directory)

def StoreOccupied (q : Request) (tree : FileTree) : Prop :=
  ∃ c, tree.look q.localRepository.text = .ok (some (.file c))

def StoreBlocked (q : Request) (tree : FileTree) : Prop :=
  ∃ f, tree.look q.localRepository.text = .error f

/-- Each repository has an effective form: the URLs on the way to it can be read, and the port of
its proxy can be written. -/
def Bindable (q : Request) : Prop :=
  ∀ r ∈ q.remoteRepositories ++ q.pluginRepositories,
    ∃ e, (Builder.bindings q (Decryption.passthrough q.proxies q.servers)).Effective r e

theorem not_bindable {q : Request} {r : Repository}
    (hr : r ∈ q.remoteRepositories ++ q.pluginRepositories) (hurl : ∀ u, Url.ofText r.url ≠ .ok u) :
    ¬ q.Bindable := by
  intro h
  obtain ⟨e, he⟩ := h r hr
  obtain ⟨u, hu⟩ := he.readable
  exact hurl u hu

theorem storeFree_or (q : Request) (tree : FileTree) :
    q.StoreFree tree ∨ q.StoreOccupied tree ∨ q.StoreBlocked tree := by
  rw [StoreFree, StoreOccupied, StoreBlocked]
  cases tree.look q.localRepository.text with
  | error f => exact .inr (.inr ⟨f, rfl⟩)
  | ok found =>
    cases found with
    | none => exact .inl (.inl rfl)
    | some node =>
      cases node with
      | directory => exact .inl (.inr rfl)
      | file c => exact .inr (.inl ⟨c, rfl⟩)

end Request

namespace Builder
variable {host : Host}

theorem standard_run_ok_iff (product : Product)
    (hversion : ∃ v, (UserAgent.productVersion host product.version).outcome = .ok v)
    (tree : FileTree) (q : Request) :
    (∃ s, ((standard product host tree).run q).1.outcome = .ok s) ↔
      UserAgent.HostWritable q.systemProperties ∧ q.StoreFree tree ∧ q.Bindable ∧
      q.offline.isWritable = true := by
  have hstore : (∃ s, (LocalStore.open? tree [] ⟨q.localRepository, ""⟩).outcome = .ok s) ↔
      q.StoreFree tree := by
    rcases q.storeFree_or tree with hfree | ⟨c, hc⟩ | ⟨f, hf⟩
    · simp [LocalStore.open?_of_free hfree, hfree]
    · simp [LocalStore.open?_of_file hc, Request.StoreFree, hc]
    · simp [LocalStore.open?_of_blocked hf, Request.StoreFree, hf]
  rw [run_ok_iff, standard, UserAgent.line_ok_iff hversion, hstore]
  rfl

theorem standard_run_occupied_iff (product : Product)
    (hversion : ∃ v, (UserAgent.productVersion host product.version).outcome = .ok v)
    (tree : FileTree) (q : Request) :
    (∃ f, ((standard product host tree).run q).1.outcome = .error (.store f) ∧
      CommandLine.isStoreReported f = true) ↔
      UserAgent.HostWritable q.systemProperties ∧ q.StoreOccupied tree := by
  have hstore : (∃ f, (LocalStore.open? tree [] ⟨q.localRepository, ""⟩).outcome = .error f ∧
      CommandLine.isStoreReported f = true) ↔ q.StoreOccupied tree := by
    rcases q.storeFree_or tree with hfree | ⟨c, hc⟩ | ⟨f, hf⟩
    · rcases id hfree with h | h <;> simp [LocalStore.open?_of_free hfree, Request.StoreOccupied, h]
    · simp [LocalStore.open?_of_file hc, Request.StoreOccupied, hc, CommandLine.isStoreReported]
    · simp [LocalStore.open?_of_blocked hf, Request.StoreOccupied, hf, CommandLine.isStoreReported]
  simp only [run_store_iff, and_assoc, exists_and_left]
  rw [standard, UserAgent.line_ok_iff hversion, hstore]

end Builder

namespace CommandLine

def buildStatus : Except BuildFault (Session Repository) → Except CommandFault ExitStatus
  | .ok _ => .ok .done
  | .error (.store f) => if isStoreReported f then .ok .noSession else .error (.build (.store f))
  | .error f => .error (.build f)

theorem report_status (w : World) (logging : Logging) (console : String)
    (x : Traced BuildFault (Session Repository)) :
    (report w logging console x).map (·.status) = buildStatus x.outcome := by
  rw [report]
  match x.outcome with
  | .ok _ | .error (.userAgent _) | .error (.route _) | .error (.digits _) => rfl
  | .error (.store f) =>
    simp only [buildStatus]
    split <;> rfl

theorem buildStatus_cases (x : Except BuildFault (Session Repository)) :
    (∃ s, x = .ok s ∧ buildStatus x = .ok .done) ∨
    (∃ f, x = .error (.store f) ∧ isStoreReported f = true ∧ buildStatus x = .ok .noSession) ∨
    ∃ f, x = .error f ∧ (∀ g, f = .store g → isStoreReported g = false) ∧
      buildStatus x = .error (.build f) := by
  match x with
  | .ok s => exact .inl ⟨s, rfl, rfl⟩
  | .error (.userAgent _) | .error (.route _) | .error (.digits _) =>
    exact .inr (.inr ⟨_, rfl, nofun, rfl⟩)
  | .error (.store f) =>
    rw [buildStatus]
    cases h : isStoreReported f with
    | true => exact .inr (.inl ⟨f, rfl, h, rfl⟩)
    | false => exact .inr (.inr ⟨_, rfl, fun g hg => BuildFault.store.inj hg ▸ h, rfl⟩)

theorem buildStatus_eq_done_iff (x : Except BuildFault (Session Repository)) :
    buildStatus x = .ok .done ↔ ∃ s, x = .ok s := by
  rcases buildStatus_cases x with ⟨s, rfl, h⟩ | ⟨f, rfl, _, h⟩ | ⟨f, rfl, _, h⟩ <;> simp [h]

theorem buildStatus_eq_noSession_iff (x : Except BuildFault (Session Repository)) :
    buildStatus x = .ok .noSession ↔ ∃ f, x = .error (.store f) ∧ isStoreReported f = true := by
  rcases buildStatus_cases x with ⟨s, rfl, h⟩ | ⟨f, rfl, hf, h⟩ | ⟨f, rfl, hf, h⟩
  · simp [h]
  · simp [h, hf]
  · simpa [h] using hf

theorem buildStatus_eq_error_iff (x : Except BuildFault (Session Repository)) :
    (∃ f, buildStatus x = .error f) ↔
      buildStatus x ≠ .ok .done ∧ buildStatus x ≠ .ok .noSession := by
  rcases buildStatus_cases x with ⟨s, rfl, h⟩ | ⟨f, rfl, _, h⟩ | ⟨f, rfl, _, h⟩ <;> simp [h]

theorem buildStatus_ne_badRequest (x : Except BuildFault (Session Repository)) :
    buildStatus x ≠ .ok .badRequest := by
  rcases buildStatus_cases x with ⟨s, rfl, h⟩ | ⟨f, rfl, _, h⟩ | ⟨f, rfl, _, h⟩ <;> simp [h]

/-- A world where all is well but, maybe, the document: the settings are valid and do not ask for a
log in files, the version of the product can be looked up, and a mapping stands at the path. -/
structure Ready (w : World) (s : Settings) (path : String) (t : Table) : Prop where
  settings : w.readers.settings w.env w.tree = .ok s
  level : ∃ level, Level.ofText? s.logLevel = some level
  noFile : s.fileLogging = false
  version : ∃ v, (UserAgent.productVersion w.host s.productVersion).outcome = .ok v
  document : ∃ c, w.tree.content? (Path.ofText path).text = .ok (some c) ∧
    RequestFile.contentValue w.readers.yaml c = .ok (.map .writable t)

variable {w : World} {s : Settings} {path : String} {t : Table}

def request (w : World) (t : Table) : Except DocumentFault Request :=
  Request.ofDocument w.env w.host.accounts (Value.entriesExpanded w.env t)

def documentStatus (w : World) (s : Settings) (t : Table) : Except CommandFault ExitStatus :=
  match request w t with
  | .ok q =>
    buildStatus ((Builder.standard ⟨s.productName, s.productVersion⟩ w.host w.tree).run q).1.outcome
  | .error f => if f = .infinitePort then .error (.load (.document f)) else .ok .badRequest

theorem Ready.load (h : Ready w s path t) :
    (RequestFile.load w.readers.yaml w.env w.tree path).outcome =
      .ok (Value.entriesExpanded w.env t) := by
  obtain ⟨c, hcontent, hvalue⟩ := h.document
  delta RequestFile.load
  simp only [hcontent, hvalue]
  rfl

theorem Ready.loadRequest (h : Ready w s path t) :
    (RequestFile.loadRequest w.readers.yaml w.env w.host.accounts w.tree path).outcome =
      (request w t).mapError .document := by
  have hload : ((RequestFile.load w.readers.yaml w.env w.tree path).mapError LoadFault.file).outcome =
      .ok (Value.entriesExpanded w.env t) :=
    (Traced.mapError_outcome_eq_ok_iff _ _ _).mpr h.load
  exact congrArg Traced.outcome (Traced.bind_of_ok hload _)

theorem Ready.loadAndBuild_status (h : Ready w s path t) {logging : Logging}
    (hconsole : logging.ConsoleOnly) (htree : logging.tree = w.tree) :
    (loadAndBuild w s logging path).map (·.status) = documentStatus w s t := by
  rw [documentStatus]
  delta loadAndBuild
  -- nothing that is logged makes a difference to what comes next
  simp only [htree, h.loadRequest, hconsole.writeAll]
  cases request w t with
  | ok q =>
    rw [← htree]
    exact report_status _ _ _ _
  | error f => cases f <;> rfl

theorem Ready.run_status (h : Ready w s path t) (rest : List String) :
    (run w (path :: rest)).map (·.status) = documentStatus w s t := by
  obtain ⟨level, hlevel⟩ := h.level
  have hformat : (loggerSetup s).format.isValid = true :=
    show LogFormat.standard.isValid = true by decide +kernel
  have hsetup := Logging.setup_console (s := loggerSetup s) hlevel hformat h.noFile w.tree
  rw [run, h.settings]
  simp only [hsetup]
  exact h.loadAndBuild_status (Logging.consoleOnly_single _ _ _ _) rfl

variable {q : Request}

theorem documentStatus_of_error {f : DocumentFault} (hf : request w t = .error f) (s : Settings) :
    documentStatus w s t =
      if f = .infinitePort then .error (.load (.document f)) else .ok .badRequest := by
  rw [documentStatus, hf]

theorem documentStatus_ne_badRequest (hq : request w t = .ok q) (s : Settings) :
    documentStatus w s t ≠ .ok .badRequest := by
  rw [documentStatus, hq]
  exact buildStatus_ne_badRequest _

theorem Ready.documentStatus_eq_done_iff (h : Ready w s path t) (hq : request w t = .ok q) :
    documentStatus w s t = .ok .done ↔
      UserAgent.HostWritable q.systemProperties ∧ q.StoreFree w.tree ∧ q.Bindable ∧
      q.offline.isWritable = true := by
  rw [documentStatus, hq]
  exact (buildStatus_eq_done_iff _).trans
    (Builder.standard_run_ok_iff ⟨s.productName, s.productVersion⟩ h.version w.tree q)

theorem Ready.documentStatus_eq_noSession_iff (h : Ready w s path t) (hq : request w t = .ok q) :
    documentStatus w s t = .ok .noSession ↔
      UserAgent.HostWritable q.systemProperties ∧ q.StoreOccupied w.tree := by
  rw [documentStatus, hq]
  exact (buildStatus_eq_noSession_iff _).trans
    (Builder.standard_run_occupied_iff ⟨s.productName, s.productVersion⟩ h.version w.tree q)

theorem Ready.documentStatus_eq_error_iff (h : Ready w s path t) (hq : request w t = .ok q) :
    (∃ f, documentStatus w s t = .error f) ↔
      ¬ UserAgent.HostWritable q.systemProperties ∨ q.StoreBlocked w.tree ∨
      q.StoreFree w.tree ∧ (¬ q.Bindable ∨ q.offline.isWritable = false) := by
  have herror : (∃ f, documentStatus w s t = .error f) ↔
      documentStatus w s t ≠ .ok .done ∧ documentStatus w s t ≠ .ok .noSession := by
    rw [documentStatus, hq]
    exact buildStatus_eq_error_iff _
  rw [herror, ne_eq, ne_eq, h.documentStatus_eq_done_iff hq, h.documentStatus_eq_noSession_iff hq,
    Request.StoreFree, Request.StoreOccupied, Request.StoreBlocked, ← Bool.not_eq_true]
  rcases q.storeFree_or w.tree with (h | h) | ⟨c, h⟩ | ⟨f, h⟩ <;>
    simp only [h, Except.ok.injEq, Except.error.injEq, Option.some.injEq, FileNode.file.injEq,
      reduceCtorEq, exists_eq', exists_false, or_false, or_true, false_or, and_false, false_and,
      not_false_eq_true, and_true, true_and] <;>
    tauto

/-- A run ends as it should, but for documents whose faults no status is provided for: an infinite
port that comes first, a number too long where it is to be written, a path too long, and URLs that
cannot be read. -/
theorem run_status_iff (h : Ready w s path t) (rest : List String) :
    ((run w (path :: rest)).map (·.status) = .ok .badRequest ↔
      ∃ f, (Document.faults (Value.entriesExpanded w.env t)).head? = some f ∧ f ≠ .infinitePort) ∧
    ((run w (path :: rest)).map (·.status) = .ok .noSession ↔
      ∃ q, request w t = .ok q ∧ UserAgent.HostWritable q.systemProperties ∧
        q.StoreOccupied w.tree) ∧
    ((run w (path :: rest)).map (·.status) = .ok .done ↔
      ∃ q, request w t = .ok q ∧ UserAgent.HostWritable q.systemProperties ∧
        q.StoreFree w.tree ∧ q.Bindable ∧ q.offline.isWritable = true) ∧
    ((∃ f, run w (path :: rest) = .error f) ↔
      (Document.faults (Value.entriesExpanded w.env t)).head? = some .infinitePort ∨
      ∃ q, request w t = .ok q ∧ (¬ UserAgent.HostWritable q.systemProperties ∨
        q.StoreBlocked w.tree ∨
        q.StoreFree w.tree ∧ (¬ q.Bindable ∨ q.offline.isWritable = false))) := by
  have hstops : StopsAt (request w t) (Document.faults (Value.entriesExpanded w.env t)) :=
    Request.ofDocument_stopsAt _ _ _
  have hrun : (∃ f, run w (path :: rest) = .error f) ↔ ∃ f, documentStatus w s t = .error f := by
    rw [← h.run_status rest]
    cases run w (path :: rest) <;> simp [Except.map]
  simp only [h.run_status rest, hrun, ← hstops.error_iff]
  cases hr : request w t with
  | ok q =>
    simp [documentStatus_ne_badRequest hr, h.documentStatus_eq_done_iff hr,
      h.documentStatus_eq_noSession_iff hr, h.documentStatus_eq_error_iff hr]
  | error f =>
    simp only [documentStatus_of_error hr]
    by_cases hf : f = .infinitePort
    · simp [hf]
    · simp [hf]

def sampleWorld (document : String) : World where
  env := [("HOME", "/home/user")]
  tree := ⟨[(⟨.above 0, ["request.yaml"]⟩, .file (.text document)), (⟨.root, ["root"]⟩, .directory),
    (⟨.root, ["root", "store"]⟩, .file (.text ""))], []⟩
  host := ⟨"3.11.2", "Linux", "6.1.0", .found "0.1.0",
    ⟨some "/home/user", fun name => if name = "root" then some "/root" else none⟩⟩
  time := .epoch
  readers := .standard

theorem ready_sampleWorld {document : String} {t : Table}
    (h : (RequestFile.contentValue Yaml.read (.text document)).toOption = some (.map .writable t)) :
    Ready (sampleWorld document) .standard "request.yaml" t where
  settings := rfl
  level := ⟨.info, rfl⟩
  noFile := rfl
  version := ⟨_, rfl⟩
  document := by
    refine ⟨.text document, rfl, ?_⟩
    change RequestFile.contentValue Yaml.read (.text document) = _
    revert h
    cases RequestFile.contentValue Yaml.read (.text document) with
    | error f => exact nofun
    | ok v => exact fun h => congrArg Except.ok (Option.some.inj h)

def occupiedDocument : String := "local_repository: ~root/store"

def namelessDocument : String := "local_repository: \"~a\\0b/store\""

def infinitePortDocument : String := "proxies: [\x7bport: .inf\x7d]"

def oddUrlDocument : String := "remote_repositories: [\x7burl: 'http://[odd'\x7d]"

theorem ready_occupiedDocument : Ready (sampleWorld occupiedDocument) .standard "request.yaml"
    [(.text "local_repository", .text "~root/store")] :=
  ready_sampleWorld (by decide +kernel)

theorem ready_namelessDocument : Ready (sampleWorld namelessDocument) .standard "request.yaml"
    [(.text "local_repository", .text "~a\x00b/store")] :=
  ready_sampleWorld (by decide +kernel)

theorem ready_infinitePortDocument :
    Ready (sampleWorld infinitePortDocument) .standard "request.yaml"
      [(.text "proxies",
        .list .writable [.map .writable [(.text "port", .real (.infinite false))]])] :=
  ready_sampleWorld (by decide +kernel)

theorem ready_oddUrlDocument : Ready (sampleWorld oddUrlDocument) .standard "request.yaml"
    [(.text "remote_repositories",
      .list .writable [.map .writable [(.text "url", .text "http://[odd")]])] :=
  ready_sampleWorld (by decide +kernel)

/-- Four documents that are no good: the first ends without a session and the second without a
request, the others in no way that was provided for. -/
theorem run_sampleWorld :
    (run (sampleWorld occupiedDocument) ["request.yaml"]).map (·.status) = .ok .noSession ∧
    (run (sampleWorld namelessDocument) ["request.yaml"]).map (·.status) = .ok .badRequest ∧
    (∃ f, run (sampleWorld infinitePortDocument) ["request.yaml"] = .error f) ∧
    ∃ f, run (sampleWorld oddUrlDocument) ["request.yaml"] = .error f := by
  obtain ⟨_, hnoSession, _⟩ := run_status_iff ready_occupiedDocument []
  obtain ⟨hbadRequest, _⟩ := run_status_iff ready_namelessDocument []
  obtain ⟨_, _, _, hport⟩ := run_status_iff ready_infinitePortDocument []
  obtain ⟨_, _, _, hurl⟩ := run_status_iff ready_oddUrlDocument []
  have hstore := expandText_of_plain (sampleWorld occupiedDocument).env (s := "~root/store")
    (by decide)
  have hname := expandText_of_plain (sampleWorld namelessDocument).env (s := "~a\x00b/store")
    (by decide)
  have hodd := expandText_of_plain (sampleWorld oddUrlDocument).env (s := "http://[odd") (by decide)
  simp only [request, Value.entriesExpanded, Value.expanded, hstore] at hnoSession
  simp only [Value.entriesExpanded, Value.expanded, hname] at hbadRequest
  simp only [request, Value.entriesExpanded, Value.itemsExpanded, Value.expanded, hodd] at hurl
  refine ⟨hnoSession.mpr ⟨_, rfl, ?_, ?_⟩, hbadRequest.mpr ⟨_, rfl, nofun⟩, hport.mpr (.inl rfl),
    hurl.mpr (.inr ⟨_, rfl, ?_⟩)⟩
  · exact fun _ _ h => nomatch h
  · exact ⟨_, rfl⟩
  · have hurl : Url.ofText "http://[odd" = .error .misplacedBracket := rfl
    refine .inr (.inr ⟨.inl rfl, .inl (Request.not_bindable List.mem_cons_self fun u hu => ?_)⟩)
    cases hurl.symm.trans hu

/-- An infinite port leaves the program as an error of its own kind. -/
theorem not_forall_run_ends :
    ¬ ∀ w s path t, Ready w s path t → ∃ r, run w [path] = .ok r := by
  intro hall
  obtain ⟨r, hr⟩ := hall _ _ _ _ ready_infinitePortDocument
  have hstatus := ready_infinitePortDocument.run_status []
  rw [hr] at hstatus
  cases hstatus

end CommandLine
end ResolverSetup
