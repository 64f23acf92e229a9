import RemoteConsole.Fault
import RemoteConsole.Match.Model
import RemoteConsole.Match.Table
import RemoteConsole.Session.Stage
import RemoteConsole.Settings.Server
import RemoteConsole.Saturate
import RemoteConsole.Wire.Request

namespace RemoteConsole

/-- One connection to a server and the model of it. Requests are queued here, and events wait here
until observers get them. -/
structure Session where
  settings : ServerSettings
  stage : Session.Stage := .disconnected
  model : Match.Model := {}
  socket : Bool := false
  dialing : Bool := false
  framer : Wire.Framer := {}
  outbound : Wire.Bytes := []
  delimiter : Option UInt8 := none
  protocol : UInt32 := 0
  gameVersion : String := ""
  user : String := ""
  response : Option Match.Table := none
  /-- How many failures there were since the server last accepted the password. -/
  attempts : UInt32 := 0
  nextAttempt : Option Instant := none
  connectedAt : Option Instant := none
  subscribedAt : Option Instant := none
  lastSend : Instant
  lastReceived : Instant
  lastRoster : Instant
  pingSentAt : Option Instant := none
  gameoverAt : Option Instant := none
  gameoverWhenEmpty : Bool := false
  queue : List Event := []
  memory : List UInt8 := []
  terminated : Option String := none
  deriving Inhabited

namespace Session

open Wire (Request)

def idle (settings : ServerSettings) (now : Instant) : Session where
  settings := settings
  lastSend := now
  lastReceived := now
  lastRoster := now

variable (s : Session)

def name : String :=
  s.settings.name

def isFullyConnected : Bool :=
  s.stage == .fullyConnected || s.stage == .travelling

def emit (e : Event) : Session :=
  { s with queue := s.queue ++ [e] }

def close (reason : String) : Session :=
  { s with
    stage := .disconnected
    model := s.model.wipe
    socket := false
    dialing := false
    framer := s.framer.clear
    outbound := []
    delimiter := none
    protocol := 0
    response := none
    connectedAt := none
    subscribedAt := none
    pingSentAt := none
    queue := if s.socket then s.queue ++ [.disconnected reason] else s.queue }

def terminate (reason : String) : Session :=
  { s.close reason with terminated := some reason }

/-- Beyond this many failures the wait grows no more. -/
def doublings : Nat :=
  16

/-- The wait before the next attempt, without its random part. -/
def backoff : Millis :=
  min (s.settings.reconnectDelay <<< min s.attempts.toNat doublings)
    s.settings.longestReconnectDelay

/-- Counts a failure, and plans the next attempt or gives up. The instant of the attempt is one of
an ideal clock: the panic of a machine's clock when so long a wait overflows it is left out. -/
def retry (t : Moment) : Session :=
  let wait := s.backoff + t.jitter
  let s := { s with attempts := saturate32 (s.attempts.toNat + 1) }
  let most := s.settings.maxAttempts
  if most ≠ 0 ∧ most ≤ s.attempts then
    s.terminate ("gave up after " ++ toString s.attempts.toNat ++ " failed attempts")
  else { s with nextAttempt := some (t.now.after wait) }

def disconnect (t : Moment) (reason : String) : Session :=
  (s.close reason).retry t

def fail (t : Moment) (f : Fault) : Session :=
  if f.isTerminal then s.terminate f.message else s.disconnect t f.message

/-- Queues a request, if there is a connection, and tells how many bytes it takes. -/
def request (now : Instant) (r : Request) : Nat × Session :=
  if s.socket then
    let bytes := r.encode
    (bytes.length, { s with outbound := s.outbound ++ bytes, lastSend := now })
  else (0, s)

def send (now : Instant) (command : String) : Nat × Session :=
  s.request now (.execute command)

def sendAll (now : Instant) (commands : List String) : Session :=
  commands.foldl (fun s command => (s.send now command).2) s

def say (now : Instant) (message : String) : Nat × Session :=
  s.send now ("say " ++ message)

def announce (now : Instant) (message : String) : Nat × Session :=
  s.send now ("amsg " ++ message)

def tell (now : Instant) (id : PlayerId) (message : String) : Nat × Session :=
  s.send now ("pamsg pid" ++ toString id.value.toInt ++ " " ++ message)

def kick (now : Instant) (id : PlayerId) (reason : String) : Nat × Session :=
  s.send now ("kick pid" ++ toString id.value.toInt ++ " " ++ reason)

/-- Ends the match after a while, which players are told of. As in `retry`, no delay is too long for
the clock. -/
def endMatch (now : Instant) (delay : Millis) : Session :=
  let s := { s with gameoverAt := some (now.after delay) }
  if delay = 0 then s
  else (s.say now ("The match will end in " ++ toString (delay / 1000) ++ " seconds.")).2

def endMatchWhenEmpty : Session :=
  { s with gameoverWhenEmpty := true }

def keepMatch : Bool × Session :=
  (s.gameoverAt.isSome || s.gameoverWhenEmpty,
    { s with gameoverAt := none, gameoverWhenEmpty := false })

end Session

end RemoteConsole
