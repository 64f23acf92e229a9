import RemoteConsole.Text.Blank
import RemoteConsole.Text.Number
import RemoteConsole.Wire.Line

namespace RemoteConsole.Wire

def delimiter : UInt8 := 0x02

def oldDelimiter : UInt8 := 0xA0

def oldestProtocol : UInt32 := 2

def delimiterOf? (protocol : UInt32) : Option UInt8 :=
  if 3 ≤ protocol then some delimiter
  else if oldestProtocol ≤ protocol then some oldDelimiter
  else none

structure Banner where
  protocol : UInt32
  game : String
  deriving DecidableEq, Inhabited

/-- The version field ends at either delimiter, since which one holds is not known yet. Digits at
its front count, blanks before them do not. -/
def Banner.parse? : Bytes → Option Banner
  | [] => none
  | type :: payload =>
    if LineKind.ofByte type = .version then
      let isDelimiter (b : UInt8) : Bool := b == delimiter || b == oldDelimiter
      let (version, game) := (Text.cutAt? isDelimiter payload).getD (payload, [])
      let digits := (Text.trim (Text.Utf8.decode version)).toList.takeWhile Char.isDigit
      ((Text.natural? 10 digits).filter (· < UInt32.size)).map fun n =>
        ⟨.ofNat n, Text.Utf8.decode game⟩
    else none

end RemoteConsole.Wire
