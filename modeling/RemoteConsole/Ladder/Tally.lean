import RemoteConsole.Match.Player
import RemoteConsole.Saturate

namespace RemoteConsole.Ladder

structure Tally where
  score : UInt64 := 0
  kills : UInt32 := 0
  deaths : UInt32 := 0
  headshotKills : UInt32 := 0
  vehicleKills : UInt32 := 0
  buildingKills : UInt32 := 0
  defenceKills : UInt32 := 0
  captures : UInt32 := 0
  gameTime : UInt32 := 0
  games : UInt32 := 0
  wins : UInt32 := 0
  ties : UInt32 := 0
  beaconPlacements : UInt32 := 0
  beaconDisarms : UInt32 := 0
  minePlacements : UInt32 := 0
  mineDisarms : UInt32 := 0
  deriving DecidableEq, Inhabited

namespace Tally

def combine (wide : UInt64 → UInt64 → UInt64) (narrow : UInt32 → UInt32 → UInt32) (a b : Tally) :
    Tally where
  score := wide a.score b.score
  kills := narrow a.kills b.kills
  deaths := narrow a.deaths b.deaths
  headshotKills := narrow a.headshotKills b.headshotKills
  vehicleKills := narrow a.vehicleKills b.vehicleKills
  buildingKills := narrow a.buildingKills b.buildingKills
  defenceKills := narrow a.defenceKills b.defenceKills
  captures := narrow a.captures b.captures
  gameTime := narrow a.gameTime b.gameTime
  games := narrow a.games b.games
  wins := narrow a.wins b.wins
  ties := narrow a.ties b.ties
  beaconPlacements := narrow a.beaconPlacements b.beaconPlacements
  beaconDisarms := narrow a.beaconDisarms b.beaconDisarms
  minePlacements := narrow a.minePlacements b.minePlacements
  mineDisarms := narrow a.mineDisarms b.mineDisarms

def add : Tally → Tally → Tally :=
  combine (fun m n => saturate64 (m.toNat + n.toNat)) fun m n => saturate32 (m.toNat + n.toNat)

def ofMatch (p : Match.Player) (gameTime : UInt32) (won tied : Bool) : Tally where
  score := .ofNat p.score.toInt.toNat
  kills := p.kills
  deaths := p.deaths
  headshotKills := p.headshots
  vehicleKills := p.vehicleKills
  buildingKills := p.buildingKills
  defenceKills := p.defenceKills
  captures := p.captures
  gameTime := gameTime
  games := 1
  wins := if won then 1 else 0
  ties := if tied then 1 else 0
  beaconPlacements := p.beaconPlacements
  beaconDisarms := p.beaconDisarms
  minePlacements := p.minePlacements
  mineDisarms := p.mineDisarms

def losses (t : Tally) : Nat :=
  t.games.toNat - (t.wins.toNat + t.ties.toNat)

def killRatio (t : Tally) : Text.Binary64 :=
  Match.killRatio t.kills t.deaths

end Tally

structure Peaks where
  score : UInt64 := 0
  kills : UInt32 := 0
  deaths : UInt32 := 0
  headshotKills : UInt32 := 0
  vehicleKills : UInt32 := 0
  buildingKills : UInt32 := 0
  defenceKills : UInt32 := 0
  captures : UInt32 := 0
  gameTime : UInt32 := 0
  beaconPlacements : UInt32 := 0
  beaconDisarms : UInt32 := 0
  minePlacements : UInt32 := 0
  mineDisarms : UInt32 := 0
  deriving DecidableEq, Inhabited

namespace Peaks

def ofTally (t : Tally) : Peaks where
  score := t.score
  kills := t.kills
  deaths := t.deaths
  headshotKills := t.headshotKills
  vehicleKills := t.vehicleKills
  buildingKills := t.buildingKills
  defenceKills := t.defenceKills
  captures := t.captures
  gameTime := t.gameTime
  beaconPlacements := t.beaconPlacements
  beaconDisarms := t.beaconDisarms
  minePlacements := t.minePlacements
  mineDisarms := t.mineDisarms

def max (a b : Peaks) : Peaks where
  score := Max.max a.score b.score
  kills := Max.max a.kills b.kills
  deaths := Max.max a.deaths b.deaths
  headshotKills := Max.max a.headshotKills b.headshotKills
  vehicleKills := Max.max a.vehicleKills b.vehicleKills
  buildingKills := Max.max a.buildingKills b.buildingKills
  defenceKills := Max.max a.defenceKills b.defenceKills
  captures := Max.max a.captures b.captures
  gameTime := Max.max a.gameTime b.gameTime
  beaconPlacements := Max.max a.beaconPlacements b.beaconPlacements
  beaconDisarms := Max.max a.beaconDisarms b.beaconDisarms
  minePlacements := Max.max a.minePlacements b.minePlacements
  mineDisarms := Max.max a.mineDisarms b.mineDisarms

end Peaks

end RemoteConsole.Ladder
