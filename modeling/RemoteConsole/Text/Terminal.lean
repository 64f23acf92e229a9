import RemoteConsole.Text.Number

namespace RemoteConsole.Text.Terminal

def isSteering (c : Char) : Bool :=
  ['\x07', '\x08', '\x0c', '\x1b', '\x7f'].contains c

def isHighControl (c : Char) : Bool :=
  0x80 ≤ c.toNat && c.toNat ≤ 0x9F

def escape (c : Char) : List Char :=
  let digits := hexDigits false 2 c.toNat
  if isSteering c then ['\\', 'x'] ++ digits
  else if isHighControl c then ['\\', 'u', '\x7b'] ++ digits ++ ['\x7d']
  else [c]

def encode (s : String) : String :=
  .ofList (s.toList.flatMap escape)

end RemoteConsole.Text.Terminal
