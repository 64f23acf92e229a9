import RemoteConsole.Text.Blank
import RemoteConsole.Text.Letters

namespace RemoteConsole.Match

structure Table where
  command : String
  header : List String := []
  rows : List (List String) := []
  deriving DecidableEq, Inhabited

namespace Table

variable (t : Table)

def push (fields : List String) : Table :=
  if t.header.isEmpty then { t with header := fields } else { t with rows := t.rows ++ [fields] }

def verb : String :=
  Text.lowerAscii (Text.firstWord t.command)

def column? (name : String) : Option Nat :=
  t.header.findIdx? (Text.sameLetters · name)

def cell? (row : List String) (name : String) : Option String := do
  row[← t.column? name]?

end Table

end RemoteConsole.Match
