import RemoteConsole.Text.Number

namespace RemoteConsole

/-- An IPv4 address; zero stands for none. -/
structure Address where
  bits : UInt32
  deriving DecidableEq, Inhabited

namespace Address

def unknown : Address :=
  ⟨0⟩

def isKnown (a : Address) : Bool :=
  a.bits != 0

def octet? (digits : List Char) : Option Nat :=
  if 3 < digits.length ∨ (digits.head? = some '0' ∧ digits.length ≠ 1) then none
  else (Text.natural? 10 digits).filter (· < 256)

def ofOctets (a b c d : Nat) : Address :=
  ⟨.ofNat (((a * 256 + b) * 256 + c) * 256 + d)⟩

def dotted? (s : String) : Option Address :=
  match (Text.piecesOf '.' s.toList).mapM octet? with
  | some [a, b, c, d] => some (ofOctets a b c d)
  | _ => none

def parse (s : String) : Address :=
  (dotted? (Text.trim s)).getD unknown

def toString (a : Address) : String :=
  let n := a.bits.toNat
  Text.join "." ([n >>> 24, n >>> 16 % 256, n >>> 8 % 256, n % 256].map fun k => s!"{k}")

/-- The mask that keeps the first `length` bits; a length beyond 32 keeps all. -/
def mask (length : UInt8) : UInt32 :=
  if length = 0 then 0
  else if 32 ≤ length then 0xFFFFFFFF
  else 0xFFFFFFFF <<< (32 - length.toUInt32)

def sameNetwork (a b : Address) (length : UInt8) : Bool :=
  a.bits &&& mask length == b.bits &&& mask length

end Address

end RemoteConsole
