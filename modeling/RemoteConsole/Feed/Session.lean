import RemoteConsole.Feed.Game
import RemoteConsole.Session.State
import RemoteConsole.Settings.Host

namespace RemoteConsole

def ServerSettings.json (s : ServerSettings) : Json :=
  .obj [
    ("name", .str s.name),
    ("hostname", .str s.host),
    ("port", .nat s.tcpPort.toNat),
    ("password", .str s.password),
    ("address", .str s.address),
    ("reconnect_delay_s", .nat (s.reconnectDelay / 1000)),
    ("max_reconnect_delay_s", .nat (s.longestReconnectDelay / 1000)),
    ("max_attempts", .nat s.maxAttempts.toNat),
    ("connect_timeout_s", .nat (s.connectTimeout / 1000)),
    ("ping_rate_s", .nat (s.pingRate / 1000)),
    ("ping_timeout_s", .nat (s.pingTimeout / 1000)),
    ("client_update_rate_ms", .nat s.rosterRate),
    ("ladder", .bool s.ladder),
    ("ban_check", .bool s.banCheck)]

def HostSettings.fields (h : HostSettings) : List (String × Json) := [
  ("log_level", .str h.logLevel),
  ("tick_rate_ms", .nat h.tickRate),
  ("command_prefix", .str h.commandMark),
  ("ban_file", .optionStr h.banFile),
  ("ladder_file", .optionStr h.ladderFile),
  ("rdns_workers", .nat h.lookups),
  ("servers", .list ServerSettings.json h.servers)]

def Match.Player.mention (p : Match.Player) : Json :=
  .arr [p.id.json, .str p.name]

def Session.json (s : Session) : Json :=
  .obj [
    ("name", .str s.name),
    ("state", .str s.stage.toString),
    ("rcon_version", .nat s.protocol.toNat),
    ("game_version", .str s.gameVersion),
    ("rcon_user", .str s.user),
    ("fully", .bool s.isFullyConnected),
    ("attempts", .nat s.attempts.toNat),
    ("terminated", .optionStr s.terminated),
    ("up", .bool s.connectedAt.isSome),
    ("max_attempts", .nat s.settings.maxAttempts.toNat),
    ("players", .list Match.Player.mention s.model.players)]

end RemoteConsole
