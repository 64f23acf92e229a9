import RemoteConsole.Text.Blank
import RemoteConsole.Text.Letters

namespace RemoteConsole

inductive Team where
  | sideA
  | sideB
  | other
  | none
  deriving DecidableEq, Inhabited

namespace Team

def ofWire (value : String) : Team :=
  let value := Text.trim value
  if value = "" then .none
  else if Text.sameLetters value "GDI" || value == "0" then .sideA
  else if Text.sameLetters value "Nod" || value == "1" then .sideB
  else .other

def wire : Team → String
  | .sideA => "GDI"
  | .sideB => "Nod"
  | .other => "Neutral"
  | .none => ""

def enemy? : Team → Option Team
  | .sideA => some .sideB
  | .sideB => some .sideA
  | _ => Option.none

def isPlayable (t : Team) : Bool :=
  t.enemy?.isSome

end Team

end RemoteConsole
