import ResolverSetup.Association
/-! What a process finds around it: its variables, and the accounts of its host. -/
namespace ResolverSetup

abbrev Environment := Association String String

structure Accounts where
  own? : Option String
  named? : String → Option String

inductive AccountFault
  | nullCharacter
deriving DecidableEq

def AccountFault.message : AccountFault → String
  | nullCharacter => "embedded null byte"

namespace Accounts

def single (home : String) : Accounts := ⟨some home, fun _ => none⟩

/-- The home of the account with a name. Without a name the variable counts before the account of
the process. -/
def home? (accounts : Accounts) (env : Environment) (name : List Char) :
    Except AccountFault (Option String) :=
  if name.isEmpty then .ok ((env.get? "HOME").or accounts.own?)
  else if name.contains '\x00' then .error .nullCharacter
  else .ok (accounts.named? (String.ofList name))

end Accounts
end ResolverSetup
