import ResolverSetup.Logging.Write
/-! A log that goes to the console alone leaves the files as they are. -/
namespace ResolverSetup

namespace Logging
variable {l : Logging}

def ConsoleOnly (l : Logging) : Prop := ∀ e ∈ l.loggers, ∀ h ∈ e.2.handlers, h.target = .console

theorem handle_fst {h : Handler} (hc : h.target = .console) (time : Timestamp) (e : LogEntry)
    (state : FileTree × String) : (handle time e state h).1 = state.1 := by
  rw [handle, hc]
  cases h.format.line? time e <;> rfl

theorem foldl_handle_fst {hs : List Handler} (h : ∀ x ∈ hs, x.target = .console)
    (time : Timestamp) (e : LogEntry) (state : FileTree × String) :
    (hs.foldl (handle time e) state).1 = state.1 := by
  induction hs generalizing state with
  | nil => rfl
  | cons x hs ih =>
    obtain ⟨hx, hrest⟩ := List.forall_mem_cons.mp h
    rw [List.foldl_cons, ih hrest, handle_fst hx]

theorem ConsoleOnly.find (h : l.ConsoleOnly) (name : String) :
    ∀ x ∈ (l.find name).handlers, x.target = .console := by
  rw [Logging.find]
  cases hname : l.loggers.get? (key name) with
  | none => exact fun _ hx => nomatch hx
  | some x => exact h _ (Association.mem_of_get? hname)

theorem ConsoleOnly.write (h : l.ConsoleOnly) (time : Timestamp) (e : LogEntry) :
    (l.write time e).1 = l := by
  have hchain : ∀ x ∈ (l.chain e.logger).flatMap (·.handlers), x.target = .console := by
    intro x hx
    obtain ⟨y, hy, hx⟩ := List.mem_flatMap.mp hx
    obtain ⟨name, _, rfl⟩ := List.mem_map.mp hy
    exact h.find name x hx
  rw [Logging.write]
  split
  · change { l with tree := (List.foldl _ (l.tree, "") _).1 } = l
    rw [foldl_handle_fst hchain]
  · rfl

theorem ConsoleOnly.writeAll (h : l.ConsoleOnly) (time : Timestamp) (es : List LogEntry) :
    (l.writeAll time es).1 = l := by
  induction es with
  | nil => rfl
  | cons e es ih =>
    change ((l.write time e).1.writeAll time es).1 = l
    rw [h.write, ih]

/-- The first logger, set up without a file. -/
theorem setup_console {s : LoggerSetup} {level : Level} (hlevel : Level.ofText? s.level = some level)
    (hformat : s.format.isValid = true) (hfile : s.toFile = false) (tree : FileTree) :
    setup ⟨[], tree⟩ s =
      (⟨[(key s.name, ⟨some level, consoleHandlers s⟩)], tree⟩,
        .ok ⟨some level, consoleHandlers s⟩) := by
  simp [setup, hlevel, find, Association.get?, Logger.fresh, makeHandlers, hformat, hfile, put,
    Association.put]

theorem consoleOnly_single (name : String) (level : Option Level) (s : LoggerSetup) (tree : FileTree) :
    ConsoleOnly ⟨[(name, ⟨level, consoleHandlers s⟩)], tree⟩ := by
  intro e he h hh
  rw [List.mem_singleton.mp he] at hh
  simp only [consoleHandlers] at hh
  split at hh
  · rw [List.mem_singleton.mp hh]
  · cases hh

end Logging
end ResolverSetup
