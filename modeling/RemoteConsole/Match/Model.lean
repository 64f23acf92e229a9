import RemoteConsole.Dictionary
import RemoteConsole.Event
import RemoteConsole.Match.Building
import RemoteConsole.Text.LowerCase

namespace RemoteConsole.Match

open GameLog (PlayerTag Outcome)

structure Phase where
  pending : Bool := false
  inProgress : Bool := false
  ended : Bool := false
  travelling : Bool := false
  deriving DecidableEq, Inhabited

structure Reached where
  firstKill : Bool := false
  firstDeath : Bool := false
  firstAction : Bool := false
  deriving DecidableEq, Inhabited

def Reached.get (r : Reached) : Milestone → Bool
  | .firstKill => r.firstKill
  | .firstDeath => r.firstDeath
  | .firstAction => r.firstAction

def Reached.mark (r : Reached) : Milestone → Reached
  | .firstKill => { r with firstKill := true }
  | .firstDeath => { r with firstDeath := true }
  | .firstAction => { r with firstAction := true }

/-- The live picture of one server. An id names the first connected player who has it. -/
structure Model where
  players : List Player := []
  buildings : List Building := []
  map : Map := {}
  rotation : List Map := []
  info : Dictionary := .empty
  phase : Phase := {}
  startedAt : Option Instant := none
  outcome : Option Outcome := none
  reached : Reached := {}
  deriving DecidableEq, Inhabited

namespace Model

variable (m : Model)

def teamCount (team : Team) : Nat :=
  m.players.countP (·.team == team)

def player? (id : PlayerId) : Option Player :=
  m.players.find? (·.id == id)

def playerByName? (name : String) : Option Player :=
  m.players.find? fun p => Text.sameLetters p.name name

def playersByPart (part : String) : List Player :=
  m.players.filter fun p => Text.mentions p.name part

/-- Players without an account are not found by it. -/
def playerByAccount? (account : AccountId) : Option Player :=
  if account = 0 then none else m.players.find? (·.account == account)

def building? (name : String) : Option Building :=
  m.buildings.find? fun b => Text.sameLetters b.name name

def isInRotation (name : String) : Bool :=
  m.rotation.any (·.is name)

def info? (key : String) : Option String :=
  (m.info.pairs.find? fun (k, _) => Text.sameLetters k key).map Prod.snd

/-- The rotation's entry of that name, else a map without a number. -/
def mapNamed (name : String) : Map :=
  (m.rotation.find? (·.is name)).getD { name }

/-- Forgets who and what is there, as a new connection needs; map and rotation stay. -/
def wipe : Model :=
  { m with players := [], buildings := [], phase := {} }

def setTravelling (travelling : Bool) : Model :=
  { m with phase := { m.phase with travelling } }

end Model

def changeFirst {α : Type} (p : α → Bool) (f : α → α) : List α → List α
  | [] => []
  | x :: xs => if p x then f x :: xs else x :: changeFirst p f xs

namespace Model

variable (m : Model)

def edit (id : PlayerId) (f : Player → Player) : Model :=
  { m with players := changeFirst (·.id == id) f m.players }

def remove (id : PlayerId) : Model :=
  { m with players := m.players.eraseP (·.id == id) }

def add (p : Player) : Model :=
  { m with players := m.players ++ [p] }

def editBuilding (name : String) (f : Building → Building) : Model :=
  { m with buildings := changeFirst (fun b => Text.sameLetters b.name name) f m.buildings }

def touch (now : Instant) (tag : PlayerTag) : Model :=
  if (m.player? tag.id).isSome then
    if tag.team = .none then m else m.edit tag.id ({ · with team := tag.team })
  else m.add (.ofTag now tag)

def snapshot (now : Instant) (tag : PlayerTag) : Player :=
  (m.player? tag.id).getD (.ofTag now tag)

end Model

end RemoteConsole.Match
