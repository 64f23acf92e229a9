import RemoteConsole.Team
import RemoteConsole.Text.Number
import RemoteConsole.Text.Pieces

namespace RemoteConsole

/-- The number a server gives a player; it goes to another once the player has left. -/
structure PlayerId where
  value : Int32
  deriving DecidableEq, Inhabited

/-- The account of a player, the same on every server; zero for none. -/
abbrev AccountId := UInt64

namespace GameLog

/-- A player as a log line names one: `Team,Id,Name`, with a `b` before the id of a bot. -/
structure PlayerTag where
  team : Team
  id : PlayerId
  name : String
  isBot : Bool
  deriving DecidableEq, Inhabited

def playerId? (cs : List Char) : Option PlayerId :=
  if cs.head? = some '+' then none else (Text.int32? (.ofList cs)).map PlayerId.mk

def PlayerTag.parse? (s : String) : Option PlayerTag := do
  let (team, rest) ← Text.cutAt? (· == ',') s.toList
  let (isBot, rest) := match rest with
    | 'b' :: rest => (true, rest)
    | rest => (false, rest)
  let (digits, name) ← Text.cutAt? (· == ',') rest
  let id ← playerId? digits
  if name.isEmpty then none
  else some ⟨.ofWire (.ofList team), id, .ofList name, isBot⟩

def teamObject? (s : String) : Option (Team × String) := do
  let (team, object) ← Text.splitOnce? (· == ',') s
  if object = "" then none else some (.ofWire team, object)

def assigned? (key s : String) : Option String := do
  let (k, v) ← Text.splitOnce? (· == '=') s
  if Text.sameLetters k key then some v else none

def accountOf (s : String) : AccountId :=
  let s := Text.trim s
  match (Text.after? "0x" s).or (Text.after? "0X" s) with
  | some digits => (Text.hex64? digits).getD 0
  | none => (Text.uint64? s).getD 0

def accountText (account : AccountId) : String :=
  "0x" ++ Text.hex true 16 account.toNat

end GameLog

end RemoteConsole
