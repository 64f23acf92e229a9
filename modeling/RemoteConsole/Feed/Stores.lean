import RemoteConsole.Ban.Entry
import RemoteConsole.Feed.Game
import RemoteConsole.Ladder.Entry

namespace RemoteConsole

def Dictionary.json (d : Dictionary) : Json :=
  .obj (d.pairs.map fun (key, value) => (key, .str value))

def Store.Value.json : Store.Value → Json
  | .byte n => .nat n.toNat
  | .word16 n => .nat n.toNat
  | .word32 n => .nat n.toNat
  | .word64 n => .nat n.toNat
  | .text s => .str s
  | .table d => d.json

def Ban.Entry.json (b : Ban.Entry) : Json :=
  .obj [
    ("flags", .nat b.flags.bits.toNat),
    ("timestamp", .nat b.issued.toNat),
    ("duration", .nat b.duration.toNat),
    ("account_id", .nat b.account.toNat),
    ("ip", .nat b.address.bits.toNat),
    ("prefix_length", .nat b.networkBits.toNat),
    ("hwid", .str b.hardwareId),
    ("rdns", .str b.hostName),
    ("name", .str b.name),
    ("banner", .str b.banner),
    ("reason", .str b.reason),
    ("extra", b.extra.json)]

namespace Ladder

def Tally.json (t : Tally) : Json :=
  .obj [
    ("score", .nat t.score.toNat),
    ("kills", .nat t.kills.toNat),
    ("deaths", .nat t.deaths.toNat),
    ("headshot_kills", .nat t.headshotKills.toNat),
    ("vehicle_kills", .nat t.vehicleKills.toNat),
    ("building_kills", .nat t.buildingKills.toNat),
    ("defence_kills", .nat t.defenceKills.toNat),
    ("captures", .nat t.captures.toNat),
    ("game_time", .nat t.gameTime.toNat),
    ("games", .nat t.games.toNat),
    ("wins", .nat t.wins.toNat),
    ("ties", .nat t.ties.toNat),
    ("beacon_placements", .nat t.beaconPlacements.toNat),
    ("beacon_disarms", .nat t.beaconDisarms.toNat),
    ("proxy_placements", .nat t.minePlacements.toNat),
    ("proxy_disarms", .nat t.mineDisarms.toNat)]

def Peaks.json (k : Peaks) : Json :=
  .obj [
    ("score", .nat k.score.toNat),
    ("kills", .nat k.kills.toNat),
    ("deaths", .nat k.deaths.toNat),
    ("headshot_kills", .nat k.headshotKills.toNat),
    ("vehicle_kills", .nat k.vehicleKills.toNat),
    ("building_kills", .nat k.buildingKills.toNat),
    ("defence_kills", .nat k.defenceKills.toNat),
    ("captures", .nat k.captures.toNat),
    ("game_time", .nat k.gameTime.toNat),
    ("beacon_placements", .nat k.beaconPlacements.toNat),
    ("beacon_disarms", .nat k.beaconDisarms.toNat),
    ("proxy_placements", .nat k.minePlacements.toNat),
    ("proxy_disarms", .nat k.mineDisarms.toNat)]

def Entry.json (e : Entry) : Json :=
  .obj [
    ("account_id", .nat e.account.toNat),
    ("totals", e.totals.json),
    ("side_a", e.sideA.json),
    ("side_b", e.sideB.json),
    ("peaks", e.peaks.json),
    ("most_recent_ip", .nat e.address.bits.toNat),
    ("last_game", .nat e.lastGame.toNat),
    ("most_recent_name", .str e.name),
    ("rank", .nat e.rank)]

end Ladder

end RemoteConsole
