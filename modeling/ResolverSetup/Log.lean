/-! Log entries, and computations that leave entries behind. -/
namespace ResolverSetup

inductive Level
  | debug
  | info
  | warning
  | error
  | critical
deriving DecidableEq

namespace Level

def name : Level → String
  | debug => "DEBUG"
  | info => "INFO"
  | warning => "WARNING"
  | error => "ERROR"
  | critical => "CRITICAL"

def weight : Level → Nat
  | debug => 10
  | info => 20
  | warning => 30
  | error => 40
  | critical => 50

def all : List Level := [debug, info, warning, error, critical]

end Level

inductive Component
  | localStore
  | builder
  | mirrors
  | proxies
  | keyring
  | injection
  | events
  | userAgent
  | documents
deriving DecidableEq

def packageLogger : String := "artifact_session"

def loggerNamed (component : String) : String := packageLogger ++ "." ++ component

namespace Component

def logger : Component → String
  | localStore => loggerNamed "local_repository"
  | builder => loggerNamed "session_builder"
  | mirrors => loggerNamed "mirror_selector"
  | proxies => loggerNamed "proxy_selector"
  | keyring => loggerNamed "auth_selector"
  | injection => loggerNamed "repository_injector"
  | events => loggerNamed "repository_events"
  | userAgent => loggerNamed "user_agent"
  | documents => loggerNamed "config"

end Component

structure LogEntry where
  level : Level
  logger : String
  message : String
deriving DecidableEq

namespace LogEntry

def debug (c : Component) (message : String) : LogEntry := ⟨.debug, c.logger, message⟩
def info (c : Component) (message : String) : LogEntry := ⟨.info, c.logger, message⟩
def warning (c : Component) (message : String) : LogEntry := ⟨.warning, c.logger, message⟩

end LogEntry

theorem mapError_eq_ok_iff (f : ε → δ) (x : Except ε α) (a : α) :
    x.mapError f = .ok a ↔ x = .ok a := by
  cases x with
  | error e => exact ⟨nofun, nofun⟩
  | ok b =>
    change Except.ok b = Except.ok a ↔ _
    rw [Except.ok.injEq, Except.ok.injEq]

theorem mapError_eq_error_iff (f : ε → δ) (x : Except ε α) (d : δ) :
    x.mapError f = .error d ↔ ∃ e, x = .error e ∧ f e = d := by
  cases x with
  | error e =>
    change Except.error (f e) = Except.error d ↔ _
    simp
  | ok a =>
    change Except.ok a = Except.error d ↔ _
    simp

theorem map_eq_ok_iff (f : α → β) (x : Except ε α) (b : β) :
    x.map f = .ok b ↔ ∃ a, x = .ok a ∧ f a = b := by
  cases x with
  | error e => simp [Except.map]
  | ok a => simp [Except.map]

theorem map_eq_error_iff (f : α → β) (x : Except ε α) (e : ε) :
    x.map f = .error e ↔ x = .error e := by
  cases x <;> simp [Except.map]

theorem exists_map_eq_ok_iff (f : α → β) (x : Except ε α) :
    (∃ b, x.map f = .ok b) ↔ ∃ a, x = .ok a := by
  cases x with
  | error e => simp [Except.map]
  | ok a => simp [Except.map]

theorem bind_eq_ok_iff (x : Except ε α) (f : α → Except ε β) (b : β) :
    x >>= f = .ok b ↔ ∃ a, x = .ok a ∧ f a = .ok b := by
  cases x with
  | error e => exact ⟨nofun, nofun⟩
  | ok a => exact ⟨fun h => ⟨a, rfl, h⟩, fun ⟨_, ha, h⟩ => Except.ok.inj ha ▸ h⟩

/-- A computation that has run: its log, kept also where it failed, and its outcome. -/
structure Traced (ε α : Type) where
  log : List LogEntry
  outcome : Except ε α

namespace Traced

def pure (a : α) : Traced ε α := ⟨[], .ok a⟩

def fail (e : ε) : Traced ε α := ⟨[], .error e⟩

def bind (x : Traced ε α) (f : α → Traced ε β) : Traced ε β :=
  match x.outcome with
  | .error e => ⟨x.log, .error e⟩
  | .ok a => ⟨x.log ++ (f a).log, (f a).outcome⟩

instance : Monad (Traced ε) where
  pure := Traced.pure
  bind := Traced.bind

def note (entry : LogEntry) : Traced ε Unit := ⟨[entry], .ok ()⟩

def notes (entries : List LogEntry) : Traced ε Unit := ⟨entries, .ok ()⟩

def ofExcept (x : Except ε α) : Traced ε α := ⟨[], x⟩

def mapError (f : ε → δ) (x : Traced ε α) : Traced δ α := ⟨x.log, x.outcome.mapError f⟩

def each (f : α → Traced ε β) : List α → Traced ε (List β)
  | [] => .pure []
  | a :: as => (f a).bind fun b => (each f as).bind fun bs => .pure (b :: bs)

@[simp] theorem pure_log (a : α) : (pure a : Traced ε α).log = [] := rfl
@[simp] theorem pure_outcome (a : α) : (pure a : Traced ε α).outcome = .ok a := rfl
@[simp] theorem ofExcept_log (x : Except ε α) : (ofExcept x).log = [] := rfl
@[simp] theorem ofExcept_outcome (x : Except ε α) : (ofExcept x).outcome = x := rfl

@[simp] theorem note_outcome (entry : LogEntry) :
    (note entry : Traced ε Unit).outcome = .ok () := rfl

@[simp] theorem notes_outcome (entries : List LogEntry) :
    (notes entries : Traced ε Unit).outcome = .ok () := rfl

@[simp] theorem note_bind_outcome (entry : LogEntry) (f : Unit → Traced ε α) :
    (note entry >>= f).outcome = (f ()).outcome := rfl

@[simp] theorem return_outcome (a : α) : (Pure.pure a : Traced ε α).outcome = .ok a := rfl

theorem bind_of_ok {x : Traced ε α} {a : α} (h : x.outcome = .ok a) (f : α → Traced ε β) :
    x.bind f = ⟨x.log ++ (f a).log, (f a).outcome⟩ := by
  simp [bind, h]

theorem bind_of_error {x : Traced ε α} {e : ε} (h : x.outcome = .error e) (f : α → Traced ε β) :
    x.bind f = ⟨x.log, .error e⟩ := by
  simp [bind, h]

theorem bind_outcome_eq_ok_iff (x : Traced ε α) (f : α → Traced ε β) (b : β) :
    (x >>= f).outcome = .ok b ↔ ∃ a, x.outcome = .ok a ∧ (f a).outcome = .ok b := by
  change (x.bind f).outcome = .ok b ↔ _
  cases h : x.outcome with
  | error e => simp [bind_of_error h]
  | ok a => simp [bind_of_ok h]

theorem bind_outcome_eq_error_iff (x : Traced ε α) (f : α → Traced ε β) (e : ε) :
    (x >>= f).outcome = .error e ↔
      x.outcome = .error e ∨ ∃ a, x.outcome = .ok a ∧ (f a).outcome = .error e := by
  change (x.bind f).outcome = .error e ↔ _
  cases h : x.outcome with
  | error d => simp [bind_of_error h]
  | ok a => simp [bind_of_ok h]

theorem ofExcept_bind_outcome (x : Except ε α) (f : α → Traced ε β) :
    (ofExcept x >>= f).outcome = x.bind fun a => (f a).outcome := by
  cases x <;> rfl

theorem mapError_outcome_eq_ok_iff (f : ε → δ) (x : Traced ε α) (a : α) :
    (x.mapError f).outcome = .ok a ↔ x.outcome = .ok a := mapError_eq_ok_iff f x.outcome a

theorem mapError_outcome_eq_error_iff (f : ε → δ) (x : Traced ε α) (d : δ) :
    (x.mapError f).outcome = .error d ↔ ∃ e, x.outcome = .error e ∧ f e = d :=
  mapError_eq_error_iff f x.outcome d

end Traced
end ResolverSetup
