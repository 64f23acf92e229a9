import RemoteConsole.GameLog.Entry
import RemoteConsole.Match.Map
import RemoteConsole.Match.Player

namespace RemoteConsole

open GameLog (ObjectKind Outcome)
open Match (Player Map)

/-- What happens for the first time in a match. -/
inductive Milestone where
  | firstKill
  | firstDeath
  | firstAction
  deriving DecidableEq, Inhabited

/-- Players in an event are as the model holds them right after the change; one who has left is as
the model held them last. -/
inductive Event where
  | connected
  | authenticated (user : String)
  | fullyConnected
  | disconnected (reason : String)
  | serverError (message : String)
  | consoleCommand (user command : String)
  | consoleSubscribed (user : String)
  | consoleUnsubscribed (user : String)
  | playerJoin (player : Player)
  | playerDiscovered (player : Player)
  | playerPart (player : Player)
  | playerKick (player : Player) (reason : String)
  | teamChange (player : Player) (oldTeam : Team)
  | nameChange (player : Player) (oldName : String)
  | idChange (player : Player) (oldId : PlayerId)
  | banMatched (player : Player) (flags : Ban.Flags)
  | chat (player : Player) (message : String)
  | teamChat (player : Player) (message : String)
  | hostChat (message : String)
  | adminLogin (player : Player) (level : String)
  | adminLogout (player : Player) (level : String)
  | adminGrant (player : Player) (level : String)
  | kill (killer victim : Player) (damage : String)
  | death (victim : Player) (killer : Option String) (damage : String)
  | suicide (player : Player) (damage : String)
  | destroy (kind : ObjectKind) (object : String) (killer : Option Player)
      (killerName damage : String)
  | capture (player : Player) (building : String) (oldTeam : Team)
  | neutralize (player : Player) (building : String) (oldTeam : Team)
  | deploy (player : Player) (object : String)
  | disarm (player : Player) (object : String) (owner : Option Player)
  | voteCall (team : Team) (topic : String) (player : Option Player) (params : List String)
  | voteResult (team : Team) (topic : String) (passed : Bool) (yes no : UInt32)
  | voteCancel (team : Team) (topic : String)
  | mapChange (map : String) (seamless : Bool)
  | mapLoad (map : Map)
  | mapStart (map : Map)
  | matchStart (map : String)
  | matchEnd (outcome : Outcome)
  | milestone (milestone : Milestone) (player : Player)
  deriving DecidableEq, Inhabited

inductive EventKind where
  | connected | authenticated | fullyConnected | disconnected | serverError
  | consoleCommand | consoleSubscribed | consoleUnsubscribed
  | playerJoin | playerDiscovered | playerPart | playerKick
  | teamChange | nameChange | idChange | banMatched
  | chat | teamChat | hostChat
  | adminLogin | adminLogout | adminGrant
  | kill | death | suicide | destroy | capture | neutralize | deploy | disarm
  | voteCall | voteResult | voteCancel
  | mapChange | mapLoad | mapStart | matchStart | matchEnd | milestone
  deriving DecidableEq, Inhabited

namespace Event

def kind : Event → EventKind
  | .connected => .connected
  | .authenticated .. => .authenticated
  | .fullyConnected => .fullyConnected
  | .disconnected .. => .disconnected
  | .serverError .. => .serverError
  | .consoleCommand .. => .consoleCommand
  | .consoleSubscribed .. => .consoleSubscribed
  | .consoleUnsubscribed .. => .consoleUnsubscribed
  | .playerJoin .. => .playerJoin
  | .playerDiscovered .. => .playerDiscovered
  | .playerPart .. => .playerPart
  | .playerKick .. => .playerKick
  | .teamChange .. => .teamChange
  | .nameChange .. => .nameChange
  | .idChange .. => .idChange
  | .banMatched .. => .banMatched
  | .chat .. => .chat
  | .teamChat .. => .teamChat
  | .hostChat .. => .hostChat
  | .adminLogin .. => .adminLogin
  | .adminLogout .. => .adminLogout
  | .adminGrant .. => .adminGrant
  | .kill .. => .kill
  | .death .. => .death
  | .suicide .. => .suicide
  | .destroy .. => .destroy
  | .capture .. => .capture
  | .neutralize .. => .neutralize
  | .deploy .. => .deploy
  | .disarm .. => .disarm
  | .voteCall .. => .voteCall
  | .voteResult .. => .voteResult
  | .voteCancel .. => .voteCancel
  | .mapChange .. => .mapChange
  | .mapLoad .. => .mapLoad
  | .mapStart .. => .mapStart
  | .matchStart .. => .matchStart
  | .matchEnd .. => .matchEnd
  | .milestone .. => .milestone

def player? : Event → Option Player
  | .playerJoin p | .playerDiscovered p | .playerPart p | .playerKick p _ | .teamChange p _
  | .nameChange p _ | .idChange p _ | .banMatched p _ | .chat p _ | .teamChat p _
  | .adminLogin p _ | .adminLogout p _ | .adminGrant p _ | .suicide p _ | .capture p _ _
  | .neutralize p _ _ | .deploy p _ | .disarm p _ _ | .milestone _ p => some p
  | .kill killer _ _ => some killer
  | .death victim _ _ => some victim
  | .destroy _ _ killer _ _ => killer
  | .voteCall _ _ player _ => player
  | _ => none

end Event

end RemoteConsole
