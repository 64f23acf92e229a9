import RemoteConsole.Ladder.Tally
import RemoteConsole.Store.Record

namespace RemoteConsole.Ladder

structure Entry where
  account : AccountId
  totals : Tally := {}
  sideA : Tally := {}
  sideB : Tally := {}
  peaks : Peaks := {}
  address : Address := .unknown
  lastGame : UInt64 := 0
  name : String := ""
  rank : Nat := 0
  deriving DecidableEq, Inhabited

namespace Entry

/-- Takes in another entry of the same account. Name and address are those of the later one. -/
def merge (e other : Entry) : Entry :=
  let e := { e with
    totals := e.totals.add other.totals
    sideA := e.sideA.add other.sideA
    sideB := e.sideB.add other.sideB
    peaks := e.peaks.max other.peaks }
  if other.lastGame < e.lastGame then e
  else { e with
    lastGame := other.lastGame
    name := other.name
    address := if other.address.isKnown then other.address else e.address }

def credit (e : Entry) (p : Match.Player) (session : Tally) (now : UInt64) : Entry :=
  { e with
    totals := e.totals.add session
    sideA := if p.team = .sideA then e.sideA.add session else e.sideA
    sideB := if p.team = .sideB then e.sideB.add session else e.sideB
    peaks := e.peaks.max (.ofTally session)
    name := p.name
    address := if p.address.isKnown then p.address else e.address
    lastGame := now }

end Entry

open Store (Field FieldKind Schema Value)

def tallyFields (lead : String) (since tiesSince : UInt8) : List Field := [
  { name := lead ++ "score", kind := .word64, since },
  { name := lead ++ "kills", kind := .word32, since },
  { name := lead ++ "deaths", kind := .word32, since },
  { name := lead ++ "headshot_kills", kind := .word32, since },
  { name := lead ++ "vehicle_kills", kind := .word32, since },
  { name := lead ++ "building_kills", kind := .word32, since },
  { name := lead ++ "defence_kills", kind := .word32, since },
  { name := lead ++ "captures", kind := .word32, since },
  { name := lead ++ "game_time", kind := .word32, since },
  { name := lead ++ "games", kind := .word32, since },
  { name := lead ++ "wins", kind := .word32, since },
  { name := lead ++ "ties", kind := .word32, since := tiesSince },
  { name := lead ++ "beacon_placements", kind := .word32, since },
  { name := lead ++ "beacon_disarms", kind := .word32, since },
  { name := lead ++ "proxy_placements", kind := .word32, since },
  { name := lead ++ "proxy_disarms", kind := .word32, since }]

def peakFields : List Field := [
  { name := "peak_score", kind := .word64 },
  { name := "peak_kills", kind := .word32 },
  { name := "peak_deaths", kind := .word32 },
  { name := "peak_headshot_kills", kind := .word32 },
  { name := "peak_vehicle_kills", kind := .word32 },
  { name := "peak_building_kills", kind := .word32 },
  { name := "peak_defence_kills", kind := .word32 },
  { name := "peak_captures", kind := .word32 },
  { name := "peak_game_time", kind := .word32 },
  { name := "peak_beacon_placements", kind := .word32 },
  { name := "peak_beacon_disarms", kind := .word32 },
  { name := "peak_proxy_placements", kind := .word32 },
  { name := "peak_proxy_disarms", kind := .word32 }]

/-- Version 1 brought ties and the tallies of the sides. -/
def schema : Schema where
  name := "ladder"
  current := 1
  oldest := 0
  fields :=
    { name := "account_id", kind := .word64 } ::
      (tallyFields "" 0 1 ++ tallyFields "a_" 1 1 ++ tallyFields "b_" 1 1 ++ peakFields ++ [
        { name := "most_recent_ip", kind := .word32 },
        { name := "last_game", kind := .word64 },
        { name := "most_recent_name", kind := .text }])

def Tally.signature (lead : String) : List (FieldKind × String) :=
  (.word64, lead ++ "score") ::
    ["kills", "deaths", "headshot_kills", "vehicle_kills", "building_kills", "defence_kills",
      "captures", "game_time", "games", "wins", "ties", "beacon_placements", "beacon_disarms",
      "proxy_placements", "proxy_disarms"].map fun name => (.word32, lead ++ name)

def Peaks.signature : List (FieldKind × String) :=
  (.word64, "peak_score") ::
    ["peak_kills", "peak_deaths", "peak_headshot_kills", "peak_vehicle_kills",
      "peak_building_kills", "peak_defence_kills", "peak_captures", "peak_game_time",
      "peak_beacon_placements", "peak_beacon_disarms", "peak_proxy_placements",
      "peak_proxy_disarms"].map fun name => (.word32, name)

def Tally.values (t : Tally) : List Value := [
  .word64 t.score, .word32 t.kills, .word32 t.deaths, .word32 t.headshotKills,
  .word32 t.vehicleKills, .word32 t.buildingKills, .word32 t.defenceKills, .word32 t.captures,
  .word32 t.gameTime, .word32 t.games, .word32 t.wins, .word32 t.ties, .word32 t.beaconPlacements,
  .word32 t.beaconDisarms, .word32 t.minePlacements, .word32 t.mineDisarms]

def Tally.ofValues? : List Value → Option (Tally × List Value)
  | .word64 score :: .word32 kills :: .word32 deaths :: .word32 headshotKills ::
      .word32 vehicleKills :: .word32 buildingKills :: .word32 defenceKills :: .word32 captures ::
      .word32 gameTime :: .word32 games :: .word32 wins :: .word32 ties ::
      .word32 beaconPlacements :: .word32 beaconDisarms :: .word32 minePlacements ::
      .word32 mineDisarms :: rest =>
    some ({
      score, kills, deaths, headshotKills, vehicleKills, buildingKills, defenceKills, captures
      gameTime, games, wins, ties, beaconPlacements, beaconDisarms, minePlacements
      mineDisarms }, rest)
  | _ => none

def Peaks.values (k : Peaks) : List Value := [
  .word64 k.score, .word32 k.kills, .word32 k.deaths, .word32 k.headshotKills,
  .word32 k.vehicleKills, .word32 k.buildingKills, .word32 k.defenceKills, .word32 k.captures,
  .word32 k.gameTime, .word32 k.beaconPlacements, .word32 k.beaconDisarms, .word32 k.minePlacements,
  .word32 k.mineDisarms]

def Peaks.ofValues? : List Value → Option (Peaks × List Value)
  | .word64 score :: .word32 kills :: .word32 deaths :: .word32 headshotKills ::
      .word32 vehicleKills :: .word32 buildingKills :: .word32 defenceKills :: .word32 captures ::
      .word32 gameTime :: .word32 beaconPlacements :: .word32 beaconDisarms ::
      .word32 minePlacements :: .word32 mineDisarms :: rest =>
    some ({
      score, kills, deaths, headshotKills, vehicleKills, buildingKills, defenceKills, captures
      gameTime, beaconPlacements, beaconDisarms, minePlacements, mineDisarms }, rest)
  | _ => none

instance : Store.Record Entry where
  schema := schema
  signature :=
    (.word64, "account_id") ::
      (Tally.signature "" ++ Tally.signature "a_" ++ Tally.signature "b_" ++ Peaks.signature ++
        [(.word32, "most_recent_ip"), (.word64, "last_game"), (.text, "most_recent_name")])
  values e :=
    .word64 e.account :: (e.totals.values ++ e.sideA.values ++ e.sideB.values ++ e.peaks.values ++
      [.word32 e.address.bits, .word64 e.lastGame, .text e.name])
  ofValues? values := do
    let .word64 account :: values := values | none
    let (totals, values) ← Tally.ofValues? values
    let (sideA, values) ← Tally.ofValues? values
    let (sideB, values) ← Tally.ofValues? values
    let (peaks, values) ← Peaks.ofValues? values
    let [.word32 address, .word64 lastGame, .text name] := values | none
    return { account, totals, sideA, sideB, peaks, address := ⟨address⟩, lastGame, name }

end RemoteConsole.Ladder
