import ResolverSetup.Association
import ResolverSetup.Server
import ResolverSetup.Repository
import ResolverSetup.Log
/-! Credentials by repository id. -/
namespace ResolverSetup

/-- Each id once, in the order in which the ids were bound. -/
structure Keyring where
  entries : Association String Credentials
deriving DecidableEq

namespace Keyring

def empty : Keyring := ⟨[]⟩

def add (k : Keyring) (id : String) : Option Credentials → Keyring
  | some c => ⟨k.entries.put id c⟩
  | none => ⟨k.entries.erase id⟩

def ofServers (servers : List Server) : Keyring :=
  servers.foldl (fun k s => k.add s.id s.credentials) empty

def select (k : Keyring) (id : String) : Option Credentials := k.entries.get? id

def credentialsFor (k : Keyring) (r : Repository) : Traced ε (Option Credentials) := do
  match k.select r.id with
  | none => return none
  | some c =>
    Traced.note (.debug .keyring ("Repository " ++ r.id ++ " has server credentials"))
    return some c

theorem select_add (k : Keyring) (id j : String) (c : Option Credentials) :
    (k.add id c).select j = if id = j then c else k.select j := by
  cases c with
  | none => exact Association.get?_erase k.entries id j
  | some c => exact Association.get?_put k.entries id j c

end Keyring
end ResolverSetup
