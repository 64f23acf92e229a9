import RemoteConsole.Settings.Server

namespace RemoteConsole

structure HostSettings where
  logLevel : String := "info"
  tickRate : Millis := 50
  commandMark : String := "!"
  banFile : Option String := some "bans.db"
  ladderFile : Option String := some "ladder.db"
  lookups : Nat := 4
  servers : List ServerSettings := []
  deriving DecidableEq, Inhabited

namespace HostSettings

def path? (value : String) : Option String :=
  if value.isEmpty then none else some value

def set (h : HostSettings) (key value : String) : HostSettings :=
  match key with
  | "log_level" => { h with logLevel := value }
  | "tick_rate" => { h with tickRate := Settings.number 50 value }
  | "command_prefix" => { h with commandMark := value }
  | "ban_file" => { h with banFile := path? value }
  | "ladder_file" => { h with ladderFile := path? value }
  | "rdns_workers" => { h with lookups := Settings.number 4 value }
  | _ => h

def server? (h : HostSettings) (name : String) : Option ServerSettings :=
  h.servers.find? fun s => Text.sameLetters s.name name

def duration (t : Millis) : String :=
  if t = 0 then "0ns"
  else if t < 1000 then toString t ++ "ms"
  else
    let places := Nat.toDigits 10 (t % 1000 + 1000) |>.drop 1
    match (places.reverse.dropWhile (· == '0')).reverse with
    | [] => toString (t / 1000) ++ "s"
    | places => toString (t / 1000) ++ "." ++ String.ofList places ++ "s"

def path (file : Option String) : String :=
  file.getD "(disabled)"

def serverLine (s : ServerSettings) : String :=
  "    [" ++ s.name ++ "] " ++ s.address ++ " (ladder: " ++ toString s.ladder ++ ", ban check: " ++
    toString s.banCheck ++ ", max attempts: " ++ toString s.maxAttempts.toNat ++ ")"

def summary (h : HostSettings) : List String := [
  "Host configuration:",
  "    Log level: " ++ h.logLevel,
  "    Tick rate: " ++ duration h.tickRate,
  "    Command prefix: " ++ h.commandMark,
  "    Ban file: " ++ path h.banFile,
  "    Ladder file: " ++ path h.ladderFile,
  "    Reverse DNS workers: " ++ toString h.lookups,
  "  Servers: " ++ toString h.servers.length] ++ h.servers.map serverLine

end HostSettings

end RemoteConsole
