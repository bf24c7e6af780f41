/-! Places in a YAML text. -/
namespace ResolverSetup.Yaml

def isBreak (c : Char) : Bool :=
  c == '\n' || c == '\r' || c == '\u0085' || c == '\u2028' || c == '\u2029'

def keptBreak (c : Char) : Char := if c == '\u2028' || c == '\u2029' then c else '\n'

def isGap (c : Char) : Bool := c == ' ' || c == '\t'

def atGap (rest : List Char) : Bool :=
  match rest with
  | [] => true
  | c :: _ => isGap c || isBreak c

def atMark (sign : Char) (rest : List Char) : Bool :=
  rest.take 3 == [sign, sign, sign] && atGap (rest.drop 3)

def atSeparator (rest : List Char) : Bool := atMark '-' rest || atMark '.' rest

structure Cursor where
  rest : List Char
  index : Nat
  line : Nat
  column : Nat

namespace Cursor

def start (s : List Char) : Cursor := ⟨s, 0, 0, 0⟩

def pass (c : Cursor) : Cursor :=
  match c.rest with
  | [] => c
  | x :: r =>
    if isBreak x then ⟨r, c.index + 1, c.line + 1, 0⟩
    else if x = '\ufeff' then ⟨r, c.index + 1, c.line, c.column⟩
    else ⟨r, c.index + 1, c.line, c.column + 1⟩

def forward (c : Cursor) : Nat → Cursor
  | 0 => c
  | n + 1 => c.pass.forward n

def upTo (c : Cursor) (rest : List Char) : Cursor := c.forward (c.rest.length - rest.length)

end Cursor
end ResolverSetup.Yaml
