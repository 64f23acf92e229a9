import RemoteConsole.Text.Utf8
import RemoteConsole.Wire.Framer

namespace RemoteConsole.Wire

inductive Request where
  | authenticate (password : String)
  | subscribe
  | unsubscribe
  | execute (command : String)
  deriving DecidableEq, Inhabited

namespace Request

def type : Request → UInt8
  | .authenticate _ => 97
  | .subscribe => 115
  | .unsubscribe => 117
  | .execute _ => 99

def payload : Request → String
  | .authenticate text | .execute text => text
  | .subscribe | .unsubscribe => ""

/-- A line end inside the text would start a request of its own. -/
def defuse (byte : UInt8) : UInt8 :=
  if byte = newline ∨ byte = carriageReturn then 0x20 else byte

def encode (r : Request) : Bytes :=
  r.type :: (Text.Utf8.encode r.payload).map defuse ++ [newline]

end Request

end RemoteConsole.Wire
