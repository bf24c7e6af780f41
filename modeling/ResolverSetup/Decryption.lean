import ResolverSetup.Proxy
import ResolverSetup.Server
/-! Decrypters, and the one that only reports what it cannot decrypt. -/
namespace ResolverSetup

/-- What a decrypter answers. Of a problem there is the text, without the exception behind it. -/
structure Decryption where
  proxies : List Proxy
  servers : List Server
  problems : List String
deriving DecidableEq

abbrev Decrypter := List Proxy → List Server → Decryption

namespace Decryption

def isBraced (s : List Char) : Bool :=
  match s with
  | '\x7b' :: r =>
    r.getLast? == some '\x7d' && r.dropLast.all fun c => c != '\x7b' && c != '\x7d'
  | _ => false

def isEncrypted : Value → Bool
  | .text s => isBraced (Text.trim s.toList)
  | _ => false

def isSealed (secret : Option Value) : Bool := secret.any isEncrypted

def problemText (secret owner : String) : String :=
  "Failed to decrypt " ++ secret ++ " for " ++ owner ++ ": no decryption key configured"

def proxyProblems (p : Proxy) : List String :=
  if isSealed p.password then [problemText "password" ("proxy " ++ p.label)] else []

def serverProblems (s : Server) : List String :=
  let report (secret : String) (v : Option Value) :=
    if isSealed v then [problemText secret ("server " ++ s.id)] else []
  report "password" s.password ++ report "passphrase" s.passphrase

def passthrough : Decrypter := fun proxies servers =>
  ⟨proxies, servers, proxies.flatMap proxyProblems ++ servers.flatMap serverProblems⟩

end Decryption
end ResolverSetup
