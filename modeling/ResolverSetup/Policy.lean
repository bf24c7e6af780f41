import ResolverSetup.Value.Render
/-! Policies that follow from the flags of a request. -/
namespace ResolverSetup

inductive UpdatePolicy
  | never
  | always
deriving DecidableEq

namespace UpdatePolicy

def text : UpdatePolicy → String
  | never => "never"
  | always => "always"

def ofFlags (noSnapshotUpdates updateSnapshots : Bool) : Option UpdatePolicy :=
  if noSnapshotUpdates then some never
  else if updateSnapshots then some always
  else none

end UpdatePolicy

/-- Which failed lookups are remembered: the base for artifacts, the fallback for metadata. Both
are sets of bits in a number. -/
structure ErrorPolicy where
  base : Int
  fallback : Int
deriving DecidableEq

namespace ErrorPolicy

def transferErrorBit : Int := 1

def notFoundBit : Int := 2

def hasBit (n bit : Int) : Bool := n / bit % 2 == 1

def standard : ErrorPolicy := ⟨notFoundBit, notFoundBit⟩

def ofFlags (cacheNotFound cacheTransferError : Bool) : ErrorPolicy :=
  let transfer := if cacheTransferError then transferErrorBit else 0
  ⟨(if cacheNotFound then notFoundBit else 0) + transfer, notFoundBit + transfer⟩

def cachesNotFound (p : ErrorPolicy) : Bool := hasBit p.base notFoundBit

def cachesTransferError (p : ErrorPolicy) : Bool := hasBit p.base transferErrorBit

def text (p : ErrorPolicy) : Except DigitFault String := do
  let base ← (Value.int p.base).spelled
  let fallback ← (Value.int p.fallback).spelled
  return recordText "ResolutionErrorPolicy" [("base_policy", base), ("fallback_policy", fallback)]

end ErrorPolicy
end ResolverSetup
