import ResolverSetup.Text.Case
import ResolverSetup.Text.Quoted
import ResolverSetup.Url.Address
/-! URLs, as far as they decide how a repository is reached: their scheme and their host. -/
namespace ResolverSetup

structure Url where
  scheme : String
  host : String
deriving DecidableEq

inductive UrlFault
  | misplacedBracket
  | malformedFutureAddress
  | noAddress (host : String)
  | bracketedDottedAddress
  | disguisedDelimiter (authority : String)
deriving DecidableEq

namespace UrlFault

def message : UrlFault → String
  | misplacedBracket => "Invalid IPv6 URL"
  | malformedFutureAddress => "IPvFuture address is invalid"
  | noAddress host => Text.quoted host ++ " does not appear to be an IPv4 or IPv6 address"
  | bracketedDottedAddress => "An IPv4 address cannot be in brackets"
  | disguisedDelimiter authority =>
    "netloc '" ++ authority ++ "' contains invalid characters under NFKC normalization"

end UrlFault

namespace Url

def cutAt (c : Char) (s : List Char) : List Char × Option (List Char) :=
  (s.takeWhile (· != c), match s.dropWhile (· != c) with
    | [] => none
    | _ :: r => some r)

def afterLast (c : Char) (s : List Char) : List Char :=
  (s.reverse.takeWhile (· != c)).reverse

def clean (s : List Char) : List Char :=
  (s.dropWhile (·.toNat ≤ 0x20)).filter fun c => c != '\t' && c != '\n' && c != '\r'

def isSchemeChar (c : Char) : Bool := c.isAlphanum || c == '+' || c == '-' || c == '.'

/-- A scheme begins with a letter and ends at the first colon. -/
def splitScheme (s : List Char) : List Char × List Char :=
  match cutAt ':' s with
  | (c :: name, some rest) =>
    if c.isAlpha && name.all isSchemeChar then (Text.lower (c :: name), rest) else ([], s)
  | _ => ([], s)

def endsAuthority (c : Char) : Bool := c == '/' || c == '?' || c == '#'

def authority (s : List Char) : List Char :=
  match s with
  | '/' :: '/' :: r => r.takeWhile (!endsAuthority ·)
  | _ => []

def hostAndPort (authority : List Char) : List Char := afterLast '@' authority

def rawHost (authority : List Char) : List Char :=
  match cutAt '[' (hostAndPort authority) with
  | (_, some r) => (cutAt ']' r).1
  | (s, none) => (cutAt ':' s).1

/-- Characters whose compatibility form holds one of the delimiters of an authority. -/
def disguised : List Nat :=
  [0x2047, 0x2048, 0x2049, 0x2100, 0x2101, 0x2105, 0x2106, 0x2A74, 0xFE13, 0xFE16, 0xFE55, 0xFE56,
    0xFE5F, 0xFE6B, 0xFF03, 0xFF0F, 0xFF1A, 0xFF1F, 0xFF20]

def checkAddress (host : List Char) : Except UrlFault Unit :=
  if host.head? = some 'v' then
    if isFuture host then .ok () else .error .malformedFutureAddress
  else if isDotted host then .error .bracketedDottedAddress
  else if isColonGrouped host then .ok ()
  else .error (.noAddress (String.ofList host))

def checkBrackets (authority : List Char) : Except UrlFault Unit :=
  match authority.contains '[', authority.contains ']' with
  | false, false => .ok ()
  | true, true =>
    match cutAt '[' (hostAndPort authority) with
    | (before, some r) =>
      match before, (cutAt ']' r).2 with
      | _ :: _, _ => .error .misplacedBracket
      | [], some (c :: _) =>
        if c = ':' then checkAddress (cutAt ']' r).1 else .error .misplacedBracket
      | [], _ => checkAddress (cutAt ']' r).1
    | (s, none) => checkAddress (cutAt ':' s).1
  | _, _ => .error .misplacedBracket

def checkDelimiters (authority : List Char) : Except UrlFault Unit :=
  if authority.any (disguised.contains ·.toNat) then
    .error (.disguisedDelimiter (String.ofList authority))
  else .ok ()

def normalHost (host : List Char) : List Char :=
  Text.lower (host.takeWhile (· != '%')) ++ host.dropWhile (· != '%')

def ofChars (s : List Char) : Except UrlFault Url :=
  let (scheme, rest) := splitScheme (clean s)
  let authority := authority rest
  match checkBrackets authority with
  | .error f => .error f
  | .ok () =>
    match checkDelimiters authority with
    | .error f => .error f
    | .ok () => .ok ⟨String.ofList scheme, String.ofList (normalHost (rawHost authority))⟩

def ofText (s : String) : Except UrlFault Url := ofChars s.toList

def localHosts : List String := ["localhost", "127.0.0.1"]

def isExternal (u : Url) : Bool := !(u.scheme == "file" || localHosts.contains u.host)

def isExternalText : Option String → Except UrlFault Bool
  | none => .ok true
  | some s => (ofText s).map isExternal

end Url
end ResolverSetup
