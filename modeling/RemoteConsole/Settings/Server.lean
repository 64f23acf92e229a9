import RemoteConsole.Clock
import RemoteConsole.Text.Letters
import RemoteConsole.Text.Number

namespace RemoteConsole

structure ServerSettings where
  name : String
  host : String := ""
  tcpPort : UInt16 := 7777
  password : String := ""
  reconnectDelay : Millis := seconds 5
  longestReconnectDelay : Millis := seconds 300
  /-- How many failures in a row end the session for good; zero for no such number. -/
  maxAttempts : UInt32 := 0
  connectTimeout : Millis := seconds 5
  pingRate : Millis := seconds 60
  pingTimeout : Millis := seconds 30
  rosterRate : Millis := 2500
  ladder : Bool := true
  banCheck : Bool := true
  deriving DecidableEq, Inhabited

namespace ServerSettings

def address (s : ServerSettings) : String :=
  s.host ++ ":" ++ toString s.tcpPort.toNat

end ServerSettings

namespace Settings

def truth (fallback : Bool) (value : String) : Bool :=
  let word := Text.lowerAscii value
  if ["true", "yes", "on", "1"].contains word then true
  else if ["false", "no", "off", "0"].contains word then false
  else fallback

def number (fallback : Nat) (value : String) : Nat :=
  ((Text.uint64? value).map UInt64.toNat).getD fallback

end Settings

/-- Sets the option of a key in lower case; keys without one change nothing, and values that cannot
be read give the default. -/
def ServerSettings.set (s : ServerSettings) (key value : String) : ServerSettings :=
  match key with
  | "hostname" => { s with host := value }
  | "port" => { s with tcpPort := (Text.uint16? value).getD 7777 }
  | "password" => { s with password := value }
  | "reconnect_delay" => { s with reconnectDelay := seconds (Settings.number 5 value) }
  | "max_reconnect_delay" => { s with longestReconnectDelay := seconds (Settings.number 300 value) }
  | "max_attempts" => { s with maxAttempts := (Text.uint32? value).getD 0 }
  | "connect_timeout" => { s with connectTimeout := seconds (Settings.number 5 value) }
  | "ping_rate" => { s with pingRate := seconds (Settings.number 60 value) }
  | "ping_timeout" => { s with pingTimeout := seconds (Settings.number 30 value) }
  | "client_update_rate" => { s with rosterRate := Settings.number 2500 value }
  | "ladder" => { s with ladder := Settings.truth true value }
  | "ban_check" => { s with banCheck := Settings.truth true value }
  | _ => s

end RemoteConsole
