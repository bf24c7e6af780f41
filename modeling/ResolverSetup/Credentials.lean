import ResolverSetup.Value.Render
import ResolverSetup.Value.Agreement
/-! Plain credentials of a repository or a proxy. -/
namespace ResolverSetup

structure Credentials where
  username : Option String
  password : Option Value
  privateKey : Option String
  passphrase : Option Value
deriving DecidableEq

namespace Credentials

/-- Credentials from their parts, if there is any. A passphrase is no credential by itself and is
kept only beside the private key that it opens. -/
def ofParts? (username : Option String) (password : Option Value) (privateKey : Option String)
    (passphrase : Option Value) : Option Credentials :=
  if username.isNone && password.isNone && privateKey.isNone then none
  else some ⟨username, password, privateKey, if privateKey.isSome then passphrase else none⟩

def agrees (c d : Credentials) : Bool :=
  c.username == d.username && bothAgree Value.agrees c.password d.password &&
    c.privateKey == d.privateKey && bothAgree Value.agrees c.passphrase d.passphrase

def text (c : Credentials) : String :=
  recordText "Authentication"
    [("username", textLiteral c.username), ("private_key", textLiteral c.privateKey)]

theorem ofParts?_eq_none_iff (u : Option String) (p : Option Value) (k : Option String)
    (f : Option Value) : ofParts? u p k f = none ↔ u = none ∧ p = none ∧ k = none := by
  simp [ofParts?, and_assoc]

theorem isSome_ofParts? (u : Option String) (p : Option Value) (k : Option String)
    (f : Option Value) : (ofParts? u p k f).isSome = (u.isSome || p.isSome || k.isSome) := by
  cases u <;> cases p <;> cases k <;> rfl

end Credentials
end ResolverSetup
