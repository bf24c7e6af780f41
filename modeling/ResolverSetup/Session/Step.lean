import ResolverSetup.Session.Basic
/-! Sessions step by step: what their makers and their users do to them, and how they answer. -/
namespace ResolverSetup

inductive Attachment
  | errorPolicy (p : ErrorPolicy)
  | kinds (r : Option Artifact.KindRegistry)
  | store (s : Option LocalStore)
  | mirrors (ms : List Mirror)
  | proxies (rules : ProxyRules)
  | keyring (k : Keyring)
  | listeners (ls : Option (List Listener))

def Attachment.name : Attachment → String
  | errorPolicy _ => "resolution_error_policy"
  | kinds _ => "artifact_type_registry"
  | store _ => "local_repository_manager"
  | mirrors _ => "mirror_selector"
  | proxies _ => "proxy_selector"
  | keyring _ => "authentication_selector"
  | listeners _ => "repository_listener"

/-- One thing that is done to a session. Its maker may replace all that is in a container that it
gave; where it gave one for two fields this takes a step for each. What its maker does inside the
entries of a container is no step: a read-only session copies containers one level deep and goes on
sharing what is in them. Nor is it one to give a session the same container again. -/
inductive SessionStep (ρ : Type)
  | assign (a : Assignment ρ)
  | attach (a : Attachment)
  | put (f : PropertyField) (k v : Value)
  | changeTable (f : PropertyField) (g : Table → Table)
  | changeList (f : ListField) (g : List ρ → List ρ)
  | freeze

namespace Session

def setAttachment (s : Session ρ) : Attachment → Session ρ
  | .errorPolicy p => { s with errorPolicy := p }
  | .kinds r => { s with kinds := r }
  | .store x => { s with store := x }
  | .mirrors ms => { s with bindings := { s.bindings with mirrors := ms } }
  | .proxies rules => { s with bindings := { s.bindings with proxies := rules } }
  | .keyring k => { s with bindings := { s.bindings with keyring := k } }
  | .listeners ls => { s with listeners := ls }

def attach (s : Session ρ) (a : Attachment) : Except SessionFault (Session ρ) :=
  if s.isReadOnly then .error (.readOnly a.name) else .ok (s.setAttachment a)

def answered (s : Session ρ) : Except SessionFault (Session ρ) → Session ρ × Option SessionFault
  | .ok t => (t, none)
  | .error f => (s, some f)

def step (s : Session ρ) : SessionStep ρ → Session ρ × Option SessionFault
  | .assign a => s.answered (s.assign a)
  | .attach a => s.answered (s.attach a)
  | .put f k v => s.answered (s.putProperty f k v)
  | .changeTable f g => (s.onProperties (·.changeSource g) f, none)
  | .changeList f g => (s.onRepositories (·.changeSource g) f, none)
  | .freeze => (s.freeze, none)

def run (s : Session ρ) : List (SessionStep ρ) → Session ρ × List (Option SessionFault)
  | [] => (s, [])
  | x :: xs => (((s.step x).1.run xs).1, (s.step x).2 :: ((s.step x).1.run xs).2)

def sharing (s : Session ρ) (tables : PropertyField → Table) (lists : ListField → List ρ) :
    Session ρ :=
  { s with
    userProperties := .shared (tables .user)
    systemProperties := .shared (tables .system)
    configProperties := .shared (tables .config)
    remoteRepositories := .shared (lists .remote)
    pluginRepositories := .shared (lists .plugin)
    mark := .bool false
    frozen := false }

def view (s : Session ρ) : Session ρ :=
  { s with
    userProperties := .owned s.userProperties.current
    systemProperties := .owned s.systemProperties.current
    configProperties := .owned s.configProperties.current
    remoteRepositories := .owned s.remoteRepositories.current
    pluginRepositories := .owned s.pluginRepositories.current }

theorem run_append (s : Session ρ) (xs ys : List (SessionStep ρ)) :
    s.run (xs ++ ys) = (((s.run xs).1.run ys).1, (s.run xs).2 ++ ((s.run xs).1.run ys).2) := by
  induction xs generalizing s with
  | nil => rfl
  | cons x xs ih => simp [run, ih]

@[simp] theorem properties_onProperties (s : Session ρ) (g : Holding Table → Holding Table)
    (f h : PropertyField) :
    (s.onProperties g f).properties h = if h = f then g (s.properties h) else s.properties h := by
  cases f <;> cases h <;> rfl

@[simp] theorem repositories_onRepositories (s : Session ρ)
    (g : Holding (List ρ) → Holding (List ρ)) (f h : ListField) :
    (s.onRepositories g f).repositories h =
      if h = f then g (s.repositories h) else s.repositories h := by
  cases f <;> cases h <;> rfl

@[simp] theorem properties_onRepositories (s : Session ρ)
    (g : Holding (List ρ) → Holding (List ρ)) (f : ListField) (h : PropertyField) :
    (s.onRepositories g f).properties h = s.properties h := by
  cases f <;> rfl

@[simp] theorem repositories_onProperties (s : Session ρ) (g : Holding Table → Holding Table)
    (f : PropertyField) (h : ListField) :
    (s.onProperties g f).repositories h = s.repositories h := by
  cases f <;> rfl

@[simp] theorem properties_setPlain (s : Session ρ) (v : Value) (p : PlainField)
    (f : PropertyField) : (s.setPlain v p).properties f = s.properties f := by
  cases p <;> rfl

@[simp] theorem repositories_setPlain (s : Session ρ) (v : Value) (p : PlainField)
    (f : ListField) : (s.setPlain v p).repositories f = s.repositories f := by
  cases p <;> rfl

@[simp] theorem properties_setAttachment (s : Session ρ) (a : Attachment) (f : PropertyField) :
    (s.setAttachment a).properties f = s.properties f := by
  cases a <;> rfl

@[simp] theorem repositories_setAttachment (s : Session ρ) (a : Attachment) (f : ListField) :
    (s.setAttachment a).repositories f = s.repositories f := by
  cases a <;> rfl

end Session
end ResolverSetup
