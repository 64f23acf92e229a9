import RemoteConsole.Feed.Game
import RemoteConsole.GameLog.Entry
import RemoteConsole.Wire.Line

namespace RemoteConsole

def Wire.LineKind.json : Wire.LineKind → Json
  | .version => .str "Version"
  | .authenticated => .str "Authenticated"
  | .error => .str "Error"
  | .echo => .str "CommandEcho"
  | .response => .str "Response"
  | .log => .str "Log"
  | .other byte => .obj [("Other", .nat byte.toNat)]

namespace GameLog

def PlayerTag.json (t : PlayerTag) : Json :=
  .obj [
    ("team", t.team.json),
    ("id", t.id.json),
    ("name", .str t.name),
    ("is_bot", .bool t.isBot)]

def tagField (name : String) (tag : PlayerTag) : String × Json :=
  (name, tag.json)

def Entry.json : Entry → Json
  | .playerEnter player ip hwid account =>
    .tagged "PlayerEnter" [tagField "player" player, ("ip", .str ip), ("hwid", .str hwid),
      ("account_id", .nat account.toNat)]
  | .playerExit player => .tagged "PlayerExit" [tagField "player" player]
  | .playerKick player reason =>
    .tagged "PlayerKick" [tagField "player" player, ("reason", .str reason)]
  | .teamJoin player newTeam oldTeam =>
    .tagged "TeamJoin" [tagField "player" player, ("new_team", newTeam.json),
      ("old_team", .option Team.json oldTeam)]
  | .nameChange player newName =>
    .tagged "NameChange" [tagField "player" player, ("new_name", .str newName)]
  | .idChange oldId newId => .tagged "IdChange" [("old_id", oldId.json), ("new_id", newId.json)]
  | .kill killer victim damage =>
    .tagged "Kill" [tagField "killer" killer, tagField "victim" victim, ("damage_type", .str damage)]
  | .death victim killer damage =>
    .tagged "Death" [tagField "victim" victim, ("killer", .optionStr killer),
      ("damage_type", .str damage)]
  | .suicide player damage =>
    .tagged "Suicide" [tagField "player" player, ("damage_type", .str damage)]
  | .destroyed kind object killer killerName damage =>
    .tagged "Destroyed" [("kind", kind.json), ("object", .str object),
      ("killer", .option PlayerTag.json killer), ("killer_name", .str killerName),
      ("damage_type", .str damage)]
  | .captured player building oldTeam =>
    .tagged "Captured" [tagField "player" player, ("building", .str building),
      ("old_team", oldTeam.json)]
  | .neutralized player building oldTeam =>
    .tagged "Neutralized" [tagField "player" player, ("building", .str building),
      ("old_team", oldTeam.json)]
  | .deployed player object => .tagged "Deployed" [tagField "player" player, ("object", .str object)]
  | .disarmed player object owner =>
    .tagged "Disarmed" [tagField "player" player, ("object", .str object),
      ("owner", .option PlayerTag.json owner)]
  | .matchStart map => .tagged "MatchStart" [("map", .str map)]
  | .matchEnd outcome => .tagged "MatchEnd" outcome.fields
  | .chat player message => .tagged "Chat" [tagField "player" player, ("message", .str message)]
  | .teamChat player message =>
    .tagged "TeamChat" [tagField "player" player, ("message", .str message)]
  | .hostChat message => .tagged "HostChat" [("message", .str message)]
  | .voteCalled team topic player params =>
    .tagged "VoteCalled" [("team", team.json), ("vote_type", .str topic),
      ("player", .option PlayerTag.json player), ("params", .strs params)]
  | .voteResults team topic passed yes no =>
    .tagged "VoteResults" [("team", team.json), ("vote_type", .str topic), ("passed", .bool passed),
      ("yes", .nat yes.toNat), ("no", .nat no.toNat)]
  | .voteCancelled team topic =>
    .tagged "VoteCancelled" [("team", team.json), ("vote_type", .str topic)]
  | .mapChanging map seamless =>
    .tagged "MapChanging" [("map", .str map), ("seamless", .bool seamless)]
  | .mapLoaded map => .tagged "MapLoaded" [("map", .str map)]
  | .mapStart map => .tagged "MapStart" [("map", .str map)]
  | .consoleCommand user command =>
    .tagged "RconCommand" [("user", .str user), ("command", .str command)]
  | .consoleSubscribed user => .tagged "RconSubscribed" [("user", .str user)]
  | .consoleUnsubscribed user => .tagged "RconUnsubscribed" [("user", .str user)]
  | .adminLogin player level =>
    .tagged "AdminLogin" [tagField "player" player, ("level", .str level)]
  | .adminLogout player level =>
    .tagged "AdminLogout" [tagField "player" player, ("level", .str level)]
  | .adminGranted player level =>
    .tagged "AdminGranted" [tagField "player" player, ("level", .str level)]
  | .unknown header topic => .tagged "Unknown" [("header", .str header), ("subtype", .str topic)]

end GameLog

end RemoteConsole
