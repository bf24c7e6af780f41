/-! Containers that a session shares with its maker until it makes them its own. -/
namespace ResolverSetup

/-- The maker's container as it stands now, and the session's own once it has one. -/
structure Holding (α : Type) where
  source : α
  own : Option α
deriving DecidableEq

namespace Holding

def shared (source : α) : Holding α := ⟨source, none⟩

def owned (x : α) : Holding α := ⟨x, some x⟩

def current (h : Holding α) : α := h.own.getD h.source

def changeSource (f : α → α) (h : Holding α) : Holding α := ⟨f h.source, h.own⟩

def change (f : α → α) (h : Holding α) : Holding α :=
  match h.own with
  | none => ⟨f h.source, none⟩
  | some x => ⟨h.source, some (f x)⟩

def replace (x : α) (h : Holding α) : Holding α := ⟨h.source, some x⟩

def detach (h : Holding α) : Holding α := ⟨h.source, some h.current⟩

@[simp] theorem current_shared (x : α) : (shared x).current = x := rfl
@[simp] theorem current_owned (x : α) : (owned x).current = x := rfl
@[simp] theorem current_replace (x : α) (h : Holding α) : (h.replace x).current = x := rfl
@[simp] theorem current_detach (h : Holding α) : h.detach.current = h.current := rfl

@[simp] theorem current_change (f : α → α) (h : Holding α) :
    (h.change f).current = f h.current := by
  obtain ⟨s, _ | x⟩ := h <;> rfl

theorem current_changeSource (f : α → α) (h : Holding α) :
    (h.changeSource f).current = if h.own.isNone then f h.current else h.current := by
  obtain ⟨s, _ | x⟩ := h <;> rfl

@[simp] theorem own_changeSource (f : α → α) (h : Holding α) : (h.changeSource f).own = h.own := rfl

@[simp] theorem own_replace (x : α) (h : Holding α) : (h.replace x).own = some x := rfl

@[simp] theorem isNone_own_change (f : α → α) (h : Holding α) :
    (h.change f).own.isNone = h.own.isNone := by
  obtain ⟨s, _ | x⟩ := h <;> rfl

@[simp] theorem current_changeSource_detach (f : α → α) (h : Holding α) :
    (h.detach.changeSource f).current = h.current := rfl

end Holding
end ResolverSetup
