import RemoteConsole.Text.Letters
import RemoteConsole.Text.Number
import RemoteConsole.Text.Utf8

namespace RemoteConsole.Match

structure Guid where
  high : UInt64
  low : UInt64
  deriving DecidableEq, Inhabited

namespace Guid

def none : Guid :=
  ⟨0, 0⟩

def toString (g : Guid) : String :=
  Text.hex true 16 g.high.toNat ++ Text.hex true 16 g.low.toNat

def isDigits (s : String) : Bool :=
  let bytes := Text.Utf8.encode s
  bytes.length == 32 && bytes.all fun b => (Char.ofNat b.toNat).isHexDigit

def parse? (s : String) : Option Guid :=
  let digits := Text.trim s
  if isDigits digits then do
    let (first, last) ← Text.Utf8.splitAt? 16 digits
    let high ← Text.hex64? first
    let low ← Text.hex64? last
    return ⟨high, low⟩
  else Option.none

end Guid

structure Map where
  name : String := ""
  guid : Guid := .none
  deriving DecidableEq, Inhabited

def Map.is (m : Map) (name : String) : Bool :=
  Text.sameLetters m.name name

end RemoteConsole.Match
