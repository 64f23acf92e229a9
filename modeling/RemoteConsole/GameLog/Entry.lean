import RemoteConsole.GameLog.Tag

namespace RemoteConsole.GameLog

inductive ObjectKind where
  | vehicle
  | defence
  | emplacement
  | building
  | other
  deriving DecidableEq, Inhabited

def ObjectKind.ofWire (value : String) : ObjectKind :=
  match Text.lowerAscii value with
  | "vehicle" => .vehicle
  | "defence" | "defense" => .defence
  | "emplacement" => .emplacement
  | "building" => .building
  | _ => .other

structure Outcome where
  winner : Option Team
  tie : Bool
  reason : String
  scoreA : Int64
  scoreB : Int64
  deriving DecidableEq, Inhabited

inductive Entry where
  | playerEnter (player : PlayerTag) (ip hwid : String) (account : AccountId)
  | playerExit (player : PlayerTag)
  | playerKick (player : PlayerTag) (reason : String)
  | teamJoin (player : PlayerTag) (newTeam : Team) (oldTeam : Option Team)
  | nameChange (player : PlayerTag) (newName : String)
  | idChange (oldId newId : PlayerId)
  | kill (killer victim : PlayerTag) (damage : String)
  | death (victim : PlayerTag) (killer : Option String) (damage : String)
  | suicide (player : PlayerTag) (damage : String)
  | destroyed (kind : ObjectKind) (object : String) (killer : Option PlayerTag)
      (killerName damage : String)
  | captured (player : PlayerTag) (building : String) (oldTeam : Team)
  | neutralized (player : PlayerTag) (building : String) (oldTeam : Team)
  | deployed (player : PlayerTag) (object : String)
  | disarmed (player : PlayerTag) (object : String) (owner : Option PlayerTag)
  | matchStart (map : String)
  | matchEnd (outcome : Outcome)
  | chat (player : PlayerTag) (message : String)
  | teamChat (player : PlayerTag) (message : String)
  | hostChat (message : String)
  | voteCalled (team : Team) (topic : String) (player : Option PlayerTag) (params : List String)
  | voteResults (team : Team) (topic : String) (passed : Bool) (yes no : UInt32)
  | voteCancelled (team : Team) (topic : String)
  | mapChanging (map : String) (seamless : Bool)
  | mapLoaded (map : String)
  | mapStart (map : String)
  | consoleCommand (user command : String)
  | consoleSubscribed (user : String)
  | consoleUnsubscribed (user : String)
  | adminLogin (player : PlayerTag) (level : String)
  | adminLogout (player : PlayerTag) (level : String)
  | adminGranted (player : PlayerTag) (level : String)
  | unknown (header topic : String)
  deriving DecidableEq, Inhabited

def Entry.isKnown : Entry → Bool
  | .unknown .. => false
  | _ => true

end RemoteConsole.GameLog
