import RemoteConsole.Text.GlyphTable
import RemoteConsole.Text.Number

namespace RemoteConsole.Text.Quoted

def isHidden (c : Char) : Bool :=
  isJoiningMark c || isIgnorable c || !isPrintable c

def shortHex (n : Nat) : List Char :=
  match (hexDigits false 6 n).dropWhile (· == '0') with
  | [] => ['0']
  | digits => digits

def escape (c : Char) : List Char :=
  match c with
  | '"' => ['\\', '"']
  | '\\' => ['\\', '\\']
  | '\n' => ['\\', 'n']
  | '\r' => ['\\', 'r']
  | '\t' => ['\\', 't']
  | '\x00' => ['\\', '0']
  | c => if isHidden c then ['\\', 'u', '\x7b'] ++ shortHex c.toNat ++ ['\x7d'] else [c]

def encode (s : String) : String :=
  .ofList ('"' :: s.toList.flatMap escape ++ ['"'])

def encodeList (items : List String) : String :=
  "[" ++ join ", " (items.map encode) ++ "]"

end RemoteConsole.Text.Quoted
