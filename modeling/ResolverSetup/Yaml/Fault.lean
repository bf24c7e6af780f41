import ResolverSetup.Number.Reader
/-! Why a text is no YAML document. -/
namespace ResolverSetup

inductive NumberFault
  | digitless (base : Nat)
  | digits (f : DigitFault)
  | tooLarge
  | noCharacter
  | beyondCharacters
deriving DecidableEq

def NumberFault.message : NumberFault → String
  | digitless base => "invalid literal for int() with base " ++ toString base ++ ": ''"
  | digits f => f.message
  | tooLarge => "int too large to convert to float"
  | noCharacter => "chr() arg not in range(0x110000)"
  | beyondCharacters => "Python int too large to convert to C int"

def NumberFault.isOverflow : NumberFault → Bool
  | tooLarge | beyondCharacters => true
  | _ => false

inductive YamlFault
  | unprintable
  | unexpectedCharacter
  | unclosedQuote
  | badEscape
  | missingColon
  | misplacedEntry
  | misplacedKey
  | misplacedValue
  | unexpectedToken
  | severalDocuments
  | unusableKey
  | unusableMerge
  | reservedScalar
  | number (f : NumberFault)
deriving DecidableEq

end ResolverSetup
