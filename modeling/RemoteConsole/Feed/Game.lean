import RemoteConsole.Json
import RemoteConsole.Match.Model

namespace RemoteConsole

def Team.json (t : Team) : Json :=
  .str (match t with
    | .sideA => "SideA"
    | .sideB => "SideB"
    | .other => "Other"
    | .none => "None")

def PlayerId.json (id : PlayerId) : Json :=
  .int id.value.toInt

def Text.Binary64.json (x : Text.Binary64) : Json :=
  if x.isFinite then .str (Text.hex false 16 x.bits.toNat) else .null

namespace Match

def Player.json (p : Player) : Json :=
  .obj [
    ("id", p.id.json),
    ("name", .str p.name),
    ("ip", .str p.ip),
    ("ip32", .nat p.address.bits.toNat),
    ("hwid", .str p.hardwareId),
    ("account_id", .nat p.account.toNat),
    ("rdns", .str p.hostName.text),
    ("team", p.team.json),
    ("is_bot", .bool p.isBot),
    ("admin_level", .optionStr p.adminLevel),
    ("ban_flags", .nat p.banFlags.bits.toNat),
    ("kills", .nat p.kills.toNat),
    ("deaths", .nat p.deaths.toNat),
    ("suicides", .nat p.suicides.toNat),
    ("headshots", .nat p.headshots.toNat),
    ("vehicle_kills", .nat p.vehicleKills.toNat),
    ("building_kills", .nat p.buildingKills.toNat),
    ("defence_kills", .nat p.defenceKills.toNat),
    ("captures", .nat p.captures.toNat),
    ("beacon_placements", .nat p.beaconPlacements.toNat),
    ("beacon_disarms", .nat p.beaconDisarms.toNat),
    ("mine_placements", .nat p.minePlacements.toNat),
    ("mine_disarms", .nat p.mineDisarms.toNat),
    ("score", .int p.score.toInt),
    ("credits", p.credits.json),
    ("ping", .nat p.ping.toNat)]

def Map.json (m : Map) : Json :=
  .obj [("name", .str m.name), ("guid", .list .nat [m.guid.high.toNat, m.guid.low.toNat])]

def Map.pair (m : Map) : Json :=
  .strs [m.name, m.guid.toString]

def Building.fields (b : Building) : List (String × Json) := [
  ("name", .str b.name),
  ("team", b.team.json),
  ("health", .int b.health.toInt),
  ("max_health", .int b.maxHealth.toInt),
  ("armor", .int b.armor.toInt),
  ("max_armor", .int b.maxArmor.toInt),
  ("capturable", .bool b.capturable),
  ("destroyed", .bool b.destroyed)]

def Building.json (b : Building) : Json :=
  .obj b.fields

end Match

namespace GameLog

def ObjectKind.json (k : ObjectKind) : Json :=
  .str (match k with
    | .vehicle => "Vehicle"
    | .defence => "Defence"
    | .emplacement => "Emplacement"
    | .building => "Building"
    | .other => "Other")

def Outcome.fields (o : Outcome) : List (String × Json) := [
  ("winner", .option Team.json o.winner),
  ("tie", .bool o.tie),
  ("reason", .str o.reason),
  ("score_a", .int o.scoreA.toInt),
  ("score_b", .int o.scoreB.toInt)]

end GameLog

namespace Match

def Model.json (m : Model) : Json :=
  .obj [
    ("players", .list Player.json m.players),
    ("buildings", .list (fun b => .obj (b.fields ++ [("integrity", b.integrity.json)])) m.buildings),
    ("map", m.map.pair),
    ("rotation", .list Map.pair m.rotation),
    ("match_started", .bool m.startedAt.isSome),
    ("outcome", .option (fun o => .obj o.fields) m.outcome)]

def letters (flags : List (String × Bool)) : String :=
  Text.join "" (flags.map fun (letter, isSet) => if isSet then letter else "-")

def Phase.letters (p : Phase) : String :=
  Match.letters [("P", p.pending), ("I", p.inProgress), ("O", p.ended), ("T", p.travelling)]

def Reached.letters (r : Reached) : String :=
  Match.letters [("K", r.firstKill), ("D", r.firstDeath), ("A", r.firstAction)]

def Model.digest (m : Model) : Json :=
  .obj [
    ("players", .list (fun p => .arr [p.id.json, .str p.name, p.team.json]) m.players),
    ("buildings", .nat m.buildings.length),
    ("map", .str m.map.name),
    ("phase", .str m.phase.letters),
    ("latches", .str m.reached.letters)]

end Match

end RemoteConsole
