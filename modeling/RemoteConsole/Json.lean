import RemoteConsole.Text.Number
import RemoteConsole.Text.Pieces

namespace RemoteConsole

inductive Json where
  | null
  | bool (value : Bool)
  | int (value : Int)
  | str (value : String)
  | arr (items : List Json)
  | obj (fields : List (String × Json))
  deriving Inhabited

namespace Json

def nat (n : Nat) : Json :=
  .int n

def option {α : Type} (f : α → Json) : Option α → Json
  | none => .null
  | some a => f a

def list {α : Type} (f : α → Json) (xs : List α) : Json :=
  .arr (xs.map f)

def optionStr : Option String → Json :=
  option .str

def strs (xs : List String) : Json :=
  list .str xs

def tagged (name : String) (fields : List (String × Json)) : Json :=
  .obj [(name, .obj fields)]

def unicodeEscape (n : Nat) : List Char :=
  '\\' :: 'u' :: Text.hexDigits false 4 n

def escapeControl (c : Char) : List Char :=
  match c with
  | '"' => ['\\', '"']
  | '\\' => ['\\', '\\']
  | '\n' => ['\\', 'n']
  | '\r' => ['\\', 'r']
  | '\t' => ['\\', 't']
  | '\x08' => ['\\', 'b']
  | '\x0c' => ['\\', 'f']
  | c => if c.toNat < 0x20 then unicodeEscape c.toNat else [c]

/-- Beyond the basic plane a character takes a pair of surrogates. -/
def escapeAscii (c : Char) : List Char :=
  let n := c.toNat
  if n < 0x7F then escapeControl c
  else if n < 0x10000 then unicodeEscape n
  else unicodeEscape (0xD800 + (n - 0x10000) / 0x400) ++ unicodeEscape (0xDC00 + (n - 0x10000) % 0x400)

def quote (escape : Char → List Char) (s : String) : String :=
  "\"" ++ String.ofList (s.toList.flatMap escape) ++ "\""

def largestExact : Nat :=
  0x1FFFFFFFFFFFFF

def number (n : Int) : String :=
  if n.natAbs ≤ largestExact then toString n else "\"" ++ toString n ++ "\""

mutual

def line : Json → String
  | .null => "null"
  | .bool b => if b then "true" else "false"
  | .int n => number n
  | .str s => quote escapeAscii s
  | .arr items => "[" ++ Text.join "," (lines items) ++ "]"
  | .obj fields => "\x7b" ++ Text.join "," (fieldLines fields) ++ "\x7d"

def lines : List Json → List String
  | [] => []
  | item :: items => line item :: lines items

def fieldLines : List (String × Json) → List String
  | [] => []
  | (key, value) :: fields =>
    (quote escapeAscii key ++ ":" ++ line value) :: fieldLines fields

end

def block (opening closing margin : String) (entries : List String) : String :=
  match entries with
  | [] => opening ++ closing
  | entries =>
    opening ++ "\n" ++ Text.join ",\n" (entries.map (margin ++ "  " ++ ·)) ++ "\n" ++ margin ++ closing

mutual

def pretty (margin : String) : Json → String
  | .null => "null"
  | .bool b => if b then "true" else "false"
  | .int n => toString n
  | .str s => quote escapeControl s
  | .arr items => block "[" "]" margin (prettyItems (margin ++ "  ") items)
  | .obj fields => block "\x7b" "\x7d" margin (prettyFields (margin ++ "  ") fields)

def prettyItems (margin : String) : List Json → List String
  | [] => []
  | item :: items => pretty margin item :: prettyItems margin items

def prettyFields (margin : String) : List (String × Json) → List String
  | [] => []
  | (key, value) :: fields =>
    (quote escapeControl key ++ ": " ++ pretty margin value) :: prettyFields margin fields

end

end Json

end RemoteConsole
