import RemoteConsole.Match.Apply
import RemoteConsole.Match.Table

namespace RemoteConsole.Match

open GameLog (accountOf)

def truth (value : String) : Bool :=
  let word := Text.lowerAscii (Text.trim value)
  word == "1" || word == "true" || word == "yes"

def told {α : Type} (cell : Option String) (f : α → String → α) (a : α) : α :=
  match cell with
  | none => a
  | some v => f a v

def filled (cell : Option String) : Option String :=
  cell.filter (· != "")

namespace Table

variable (t : Table) (row : List String)

def playerId? : Option (PlayerId × Bool) :=
  let text := Text.trim (((t.cell? row "ID").or (t.cell? row "PlayerID")).getD "")
  let (isBot, digits) := match Text.after? "b" text with
    | some digits => (true, digits)
    | none => (false, text)
  (Text.int32? digits).map fun n => (⟨n⟩, isBot)

/-- Writes what a row tells over a player. Names, addresses and ranks that are empty tell nothing. -/
def updatePlayer (p : Player) : Player :=
  p
    |> told (filled (t.cell? row "Name")) (fun p v => { p with name := v })
    |> told (t.cell? row "Team") (fun p v => { p with team := .ofWire v })
    |> told (t.cell? row "Kills") (fun p v => { p with kills := Text.lenient Text.uint32? v })
    |> told (t.cell? row "Deaths") (fun p v => { p with deaths := Text.lenient Text.uint32? v })
    |> told (t.cell? row "Score") (fun p v => { p with score := Text.lenient Text.int32? v })
    |> told (t.cell? row "Credits")
      (fun p v => { p with credits := Text.lenient Text.Binary64.read? v })
    |> told (t.cell? row "Ping") (fun p v => { p with ping := Text.lenient Text.uint32? v })
    |> told (filled (t.cell? row "IP")) Player.setIp
    |> told (filled (t.cell? row "HWID")) (fun p v => { p with hardwareId := v })
    |> told (t.cell? row "Steam") (fun p v => { p with account := accountOf v })
    |> told ((filled (t.cell? row "Admin")).filter (· != "None"))
      (fun p v => { p with adminLevel := some v })
    |> told (t.cell? row "IsBot") (fun p v => { p with isBot := truth v })

def number (name : String) : Int32 :=
  ((t.cell? row name).map (Text.lenient Text.int32?)).getD 0

def flag (name : String) : Bool :=
  ((t.cell? row name).map truth).getD false

def building? : Option Building := do
  let name ← filled (t.cell? row "Building")
  return {
    name
    team := .ofWire ((t.cell? row "Team").getD "")
    health := t.number row "Health"
    maxHealth := t.number row "MaxHealth"
    armor := t.number row "Armor"
    maxArmor := t.number row "MaxArmor"
    capturable := t.flag row "Capturable"
    destroyed := t.flag row "Destroyed" }

def map? : Option Map := do
  let column := ((t.column? "Name").or (t.column? "Map")).getD 0
  let name ← filled ((row[column]?).map Text.trim)
  return { name, guid := ((t.cell? row "GUID").bind Guid.parse?).getD .none }

end Table

namespace Model

variable (now : Instant) (m : Model) (t : Table)

/-- One row of a roster: its player is created if nobody has the id, and then updated. -/
def rosterRow (state : Model × List Event) (row : List String) : Model × List Event :=
  let (m, events) := state
  match t.playerId? row with
  | none => (m, events)
  | some (id, isBot) =>
    if (m.player? id).isSome then (m.edit id (t.updatePlayer row), events)
    else
      let created : Player := { id, name := (t.cell? row "Name").getD "", isBot, joinedAt := now }
      let player := t.updatePlayer row created
      (m.add player, events ++ [.playerDiscovered player])

/-- A roster without a column for ids changes nothing. Who is in no row has left. -/
def applyRoster : Model × List Event :=
  if (t.column? "ID").isNone && (t.column? "PlayerID").isNone then (m, [])
  else
    let (m, events) := t.rows.foldl (rosterRow now t) (m, [])
    let seen := t.rows.filterMap fun row => (t.playerId? row).map Prod.fst
    ({ m with players := m.players.filter fun p => seen.contains p.id }, events)

def applyBuildings : Model :=
  { m with buildings := t.rows.filterMap t.building? }

/-- Only the first row counts. It may name another map and say whether a match is on. -/
def applyInfo : Model :=
  match t.rows with
  | [] => m
  | row :: _ =>
    let m := { m with info := .ofPairs (t.header.zip row) }
    let m := told (filled (m.info? "Map"))
      (fun m v => if m.map.is v then m else { m with map := m.mapNamed v }) m
    told (m.info? "bIsMatchInProgress")
      (fun m v =>
        { m with
          phase := { m.phase with inProgress := truth v }
          startedAt := if truth v && m.startedAt.isNone then some now else m.startedAt })
      m

def applyRotation : Model :=
  let m := { m with rotation := t.rows.filterMap t.map? }
  match m.rotation.find? (·.is m.map.name) with
  | none => m
  | some entry => { m with map := { m.map with guid := entry.guid } }

def applyTable : Model × List Event :=
  match t.verb with
  | "clientvarlist" => m.applyRoster now t
  | "binfo" => (m.applyBuildings t, [])
  | "gameinfo" => (m.applyInfo now t, [])
  | "rotation" => (m.applyRotation t, [])
  | _ => (m, [])

end Model

end RemoteConsole.Match
