/-! UTF-8 octets read as text, with the place and the cause of the first fault. -/
namespace ResolverSetup.Text

inductive DecodeReason
  | invalidStart
  | invalidContinuation
  | unexpectedEnd
deriving DecidableEq

structure DecodeFault where
  position : Nat
  octets : List UInt8
  reason : DecodeReason
deriving DecidableEq

/-- A character of which some octets have been read, the latest first. Its next octet lies between
`low` and `high`, and `owed` more follow that one. -/
structure OpenChar where
  octets : List UInt8
  value : Nat
  owed : Nat
  low : Nat
  high : Nat
deriving DecidableEq

def openChar? (b : UInt8) : Option OpenChar :=
  let n := b.toNat
  if 0xC2 ≤ n && n ≤ 0xDF then some ⟨[b], n - 0xC0, 0, 0x80, 0xBF⟩
  else if n = 0xE0 then some ⟨[b], 0, 1, 0xA0, 0xBF⟩
  else if n = 0xED then some ⟨[b], 0xD, 1, 0x80, 0x9F⟩
  else if 0xE1 ≤ n && n ≤ 0xEF then some ⟨[b], n - 0xE0, 1, 0x80, 0xBF⟩
  else if n = 0xF0 then some ⟨[b], 0, 2, 0x90, 0xBF⟩
  else if n = 0xF4 then some ⟨[b], 4, 2, 0x80, 0x8F⟩
  else if 0xF1 ≤ n && n ≤ 0xF3 then some ⟨[b], n - 0xF0, 2, 0x80, 0xBF⟩
  else none

abbrev Decoded := Except DecodeFault (List Char × List UInt8)

def Decoded.cons (c : Char) (d : Decoded) : Decoded := d.map fun (s, tail) => (c :: s, tail)

def beginsSurrogate (octets : List UInt8) (next : UInt8) : Bool :=
  octets == [0xED] && 0xA0 ≤ next.toNat && next.toNat ≤ 0xBF

def decodeFrom (more : Bool) (position : Nat) : Option OpenChar → List UInt8 → Decoded
  | none, [] => .ok ([], [])
  | some o, [] => .ok ([], o.octets.reverse)
  | none, b :: bs =>
    if b.toNat < 0x80 then
      Decoded.cons (Char.ofNat b.toNat) (decodeFrom more (position + 1) none bs)
    else match openChar? b with
      | none => .error ⟨position, [b], .invalidStart⟩
      | some o => decodeFrom more (position + 1) (some o) bs
  | some o, b :: bs =>
    if o.low ≤ b.toNat && b.toNat ≤ o.high then
      let value := o.value * 64 + b.toNat % 64
      match o.owed with
      | 0 => Decoded.cons (Char.ofNat value) (decodeFrom more (position + 1) none bs)
      | k + 1 =>
        decodeFrom more (position + 1) (some ⟨b :: o.octets, value, k, 0x80, 0xBF⟩) bs
    else if more && bs.isEmpty && beginsSurrogate o.octets b then .ok ([], o.octets ++ [b])
    else .error ⟨position - o.octets.length, o.octets.reverse, .invalidContinuation⟩

def decode (octets : List UInt8) : Except DecodeFault (List Char) :=
  match decodeFrom false 0 none octets with
  | .error f => .error f
  | .ok (s, []) => .ok s
  | .ok (_, tail) => .error ⟨octets.length - tail.length, tail, .unexpectedEnd⟩

/-- Reads a list of blocks. Positions count from the start of a block, the open tail of the block
before it included. -/
def decodeBlocks (tail : List UInt8) : List (List UInt8) → Except DecodeFault (List Char)
  | [] => decode tail
  | block :: blocks =>
    match decodeFrom true 0 none (tail ++ block) with
    | .error f => .error f
    | .ok (s, tail') => (decodeBlocks tail' blocks).map (s ++ ·)

def blocksOf (size : Nat) : Nat → List UInt8 → List (List UInt8)
  | 0, _ => []
  | _, [] => []
  | k + 1, bs => bs.take size :: blocksOf size k (bs.drop size)

def decodeStream (size : Nat) (octets : List UInt8) : Except DecodeFault (List Char) :=
  decodeBlocks [] (blocksOf size octets.length octets)

def unifyLineEnds : List Char → List Char
  | '\r' :: '\n' :: s => '\n' :: unifyLineEnds s
  | '\r' :: s => '\n' :: unifyLineEnds s
  | c :: s => c :: unifyLineEnds s
  | [] => []

def DecodeReason.message : DecodeReason → String
  | .invalidStart => "invalid start byte"
  | .invalidContinuation => "invalid continuation byte"
  | .unexpectedEnd => "unexpected end of data"

def hexOctet (b : UInt8) : String :=
  String.ofList [Nat.digitChar (b.toNat / 16), Nat.digitChar (b.toNat % 16)]

def DecodeFault.message (f : DecodeFault) : String :=
  match f.octets with
  | [b] => "'utf-8' codec can't decode byte 0x" ++ hexOctet b ++ " in position " ++
      toString f.position ++ ": " ++ f.reason.message
  | bs => "'utf-8' codec can't decode bytes in position " ++ toString f.position ++ "-" ++
      toString (f.position + bs.length - 1) ++ ": " ++ f.reason.message

end ResolverSetup.Text
