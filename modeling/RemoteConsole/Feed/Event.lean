import RemoteConsole.Event
import RemoteConsole.Feed.Game

namespace RemoteConsole

open Match (Player Map)

def EventKind.names : List (EventKind × String) := [
  (.connected, "Connected"), (.authenticated, "Authenticated"),
  (.fullyConnected, "FullyConnected"), (.disconnected, "Disconnected"),
  (.serverError, "ServerError"), (.consoleCommand, "RconCommand"),
  (.consoleSubscribed, "RconSubscribed"), (.consoleUnsubscribed, "RconUnsubscribed"),
  (.playerJoin, "PlayerJoin"), (.playerDiscovered, "PlayerDiscovered"),
  (.playerPart, "PlayerPart"), (.playerKick, "PlayerKick"), (.teamChange, "TeamChange"),
  (.nameChange, "NameChange"), (.idChange, "IdChange"), (.banMatched, "BanMatched"),
  (.chat, "Chat"), (.teamChat, "TeamChat"), (.hostChat, "HostChat"),
  (.adminLogin, "AdminLogin"), (.adminLogout, "AdminLogout"), (.adminGrant, "AdminGrant"),
  (.kill, "Kill"), (.death, "Death"), (.suicide, "Suicide"), (.destroy, "Destroy"),
  (.capture, "Capture"), (.neutralize, "Neutralize"), (.deploy, "Deploy"), (.disarm, "Disarm"),
  (.voteCall, "VoteCall"), (.voteResult, "VoteResult"), (.voteCancel, "VoteCancel"),
  (.mapChange, "MapChange"), (.mapLoad, "MapLoad"), (.mapStart, "MapStart"),
  (.matchStart, "MatchStart"), (.matchEnd, "MatchEnd"), (.milestone, "Milestone")]

def EventKind.name (k : EventKind) : String :=
  (EventKind.names.lookup k).getD ""

def EventKind.ofName? (name : String) : Option EventKind :=
  (EventKind.names.find? (·.2 == name)).map Prod.fst

def Milestone.json (m : Milestone) : Json :=
  .str (match m with
    | .firstKill => "FirstKill"
    | .firstDeath => "FirstDeath"
    | .firstAction => "FirstAction")

namespace Event

def fields : Event → List (String × Json)
  | .connected | .fullyConnected => []
  | .authenticated user | .consoleSubscribed user | .consoleUnsubscribed user =>
    [("user", .str user)]
  | .disconnected reason => [("reason", .str reason)]
  | .serverError message | .hostChat message => [("message", .str message)]
  | .consoleCommand user command => [("user", .str user), ("command", .str command)]
  | .playerJoin p | .playerDiscovered p | .playerPart p => [("player", p.json)]
  | .playerKick p reason => [("player", p.json), ("reason", .str reason)]
  | .teamChange p oldTeam => [("player", p.json), ("old_team", oldTeam.json)]
  | .nameChange p oldName => [("player", p.json), ("old_name", .str oldName)]
  | .idChange p oldId => [("player", p.json), ("old_id", oldId.json)]
  | .banMatched p flags => [("player", p.json), ("flags", .nat flags.bits.toNat)]
  | .chat p message | .teamChat p message => [("player", p.json), ("message", .str message)]
  | .adminLogin p level | .adminLogout p level | .adminGrant p level =>
    [("player", p.json), ("level", .str level)]
  | .kill killer victim damage =>
    [("killer", killer.json), ("victim", victim.json), ("damage_type", .str damage)]
  | .death victim killer damage =>
    [("victim", victim.json), ("killer", .optionStr killer), ("damage_type", .str damage)]
  | .suicide p damage => [("player", p.json), ("damage_type", .str damage)]
  | .destroy kind object killer killerName damage =>
    [("kind", kind.json), ("object", .str object), ("killer", .option Player.json killer),
      ("killer_name", .str killerName), ("damage_type", .str damage)]
  | .capture p building oldTeam | .neutralize p building oldTeam =>
    [("player", p.json), ("building", .str building), ("old_team", oldTeam.json)]
  | .deploy p object => [("player", p.json), ("object", .str object)]
  | .disarm p object owner =>
    [("player", p.json), ("object", .str object), ("owner", .option Player.json owner)]
  | .voteCall team topic player params =>
    [("team", team.json), ("vote_type", .str topic), ("player", .option Player.json player),
      ("params", .strs params)]
  | .voteResult team topic passed yes no =>
    [("team", team.json), ("vote_type", .str topic), ("passed", .bool passed),
      ("yes", .nat yes.toNat), ("no", .nat no.toNat)]
  | .voteCancel team topic => [("team", team.json), ("vote_type", .str topic)]
  | .mapChange map seamless => [("map", .str map), ("seamless", .bool seamless)]
  | .mapLoad map | .mapStart map => [("map", map.json)]
  | .matchStart map => [("map", .str map)]
  | .matchEnd outcome => outcome.fields
  | .milestone what p => [("milestone", what.json), ("player", p.json)]

def json (e : Event) : Json :=
  let body := match e.fields with
    | [] => .str e.kind.name
    | fields => .tagged e.kind.name fields
  .obj [
    ("kind", .str e.kind.name),
    ("player", .option (fun p => p.id.json) e.player?),
    ("event", body)]

end Event

end RemoteConsole
