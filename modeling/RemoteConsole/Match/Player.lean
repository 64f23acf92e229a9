import RemoteConsole.Address
import RemoteConsole.Ban.Flags
import RemoteConsole.Clock
import RemoteConsole.GameLog.Tag
import RemoteConsole.Text.Binary64

namespace RemoteConsole.Match

/-- The host name behind a player's address. It is written once; until then a lookup may be under
way, for the address it was started with. -/
inductive HostName where
  | pending (asked : Option Address)
  | known (name : String)
  deriving DecidableEq, Inhabited

namespace HostName

def unasked : HostName :=
  .pending none

def text : HostName → String
  | .pending _ => "pending"
  | .known name => name

def isPending : HostName → Bool
  | .pending _ => true
  | .known _ => false

/-- Whether the name was written, and the cell behind it: a name that is there stays. -/
def set (name : String) : HostName → Bool × HostName
  | .pending _ => (true, .known name)
  | .known old => (false, .known old)

def ask (address : Address) : HostName → HostName
  | .pending none => .pending (some address)
  | h => h

def answer (nameOf : Address → Option String) : HostName → HostName
  | .pending (some address) => ((nameOf address).map known).getD (.pending (some address))
  | .pending none => .pending none
  | .known name => .known name

end HostName

structure Player where
  id : PlayerId
  name : String
  ip : String := ""
  address : Address := .unknown
  hardwareId : String := ""
  account : AccountId := 0
  hostName : HostName := .unasked
  team : Team := .none
  isBot : Bool := false
  joinedAt : Instant
  adminLevel : Option String := none
  banFlags : Ban.Flags := .none
  kills : UInt32 := 0
  deaths : UInt32 := 0
  suicides : UInt32 := 0
  headshots : UInt32 := 0
  vehicleKills : UInt32 := 0
  buildingKills : UInt32 := 0
  defenceKills : UInt32 := 0
  captures : UInt32 := 0
  beaconPlacements : UInt32 := 0
  beaconDisarms : UInt32 := 0
  minePlacements : UInt32 := 0
  mineDisarms : UInt32 := 0
  score : Int32 := 0
  credits : Text.Binary64 := 0
  ping : UInt32 := 0
  deriving DecidableEq, Inhabited

def killRatio (kills deaths : UInt32) : Text.Binary64 :=
  .ofRatio kills.toNat (max 1 deaths.toNat)

namespace Player

def ofTag (now : Instant) (tag : GameLog.PlayerTag) : Player where
  id := tag.id
  name := tag.name
  team := tag.team
  isBot := tag.isBot
  joinedAt := now

def setIp (p : Player) (ip : String) : Player :=
  { p with ip, address := .parse ip }

def resetCounters (p : Player) : Player :=
  { p with
    kills := 0, deaths := 0, suicides := 0, headshots := 0, vehicleKills := 0, buildingKills := 0
    defenceKills := 0, captures := 0, beaconPlacements := 0, beaconDisarms := 0
    minePlacements := 0, mineDisarms := 0, score := 0 }

def isBanned (p : Player) (kind : Ban.Flags) : Bool :=
  p.banFlags.intersects kind

end Player

end RemoteConsole.Match
