import ResolverSetup.Listener
/-! Chains of listeners step by step: one is made out of another, or gets an event. -/
namespace ResolverSetup

/-- The chains that have been made, the newest first. -/
abbrev Chains := List (List Listener)

/-- One thing that is done with a chain, which is told by how many are newer. -/
inductive ChainStep
  | extend (newer : Nat) (l : Listener)
  | deliver (newer : Nat) (e : Event)

namespace ChainStep

def added? : ChainStep → Option Listener
  | extend _ l => some l
  | deliver _ _ => none

def isAtNewest : ChainStep → Bool
  | extend newer _ => newer == 0
  | deliver _ _ => true

end ChainStep

namespace Chains

def step (cs : Chains) : ChainStep → Chains × Delivery
  | .extend k l =>
    match cs[k]? with
    | some ls => (Listener.chained ls l :: cs, .quiet)
    | none => (cs, .quiet)
  | .deliver k e =>
    match cs[k]? with
    | some ls => (cs, Listener.deliver e (.chain ls))
    | none => (cs, .quiet)

def run (cs : Chains) : List ChainStep → Chains × List Delivery
  | [] => (cs, [])
  | x :: xs => (((cs.step x).1.run xs).1, (cs.step x).2 :: ((cs.step x).1.run xs).2)

theorem run_append (cs : Chains) (xs ys : List ChainStep) :
    cs.run (xs ++ ys) = (((cs.run xs).1.run ys).1, (cs.run xs).2 ++ ((cs.run xs).1.run ys).2) := by
  induction xs generalizing cs with
  | nil => rfl
  | cons x xs ih => simp [run, ih]

end Chains
end ResolverSetup
