import RemoteConsole.Host.Receive

namespace RemoteConsole

inductive Dial where
  | underway
  | opened
  | failed (reason : String)
  deriving DecidableEq, Inhabited

inductive Arrival where
  | bytes (data : Wire.Bytes)
  | ended
  | failed (reason : String)
  deriving DecidableEq, Inhabited

inductive Outflow where
  | took (bytes : Nat)
  | ended
  | failed (reason : String)
  deriving DecidableEq, Inhabited

inductive Status where
  | online
  | offline
  | terminated
  deriving DecidableEq, Inhabited

/-- How often a turn reads at most, so that one busy server does not hold up the others. -/
def readsPerTurn : Nat :=
  64

namespace Session

variable (s : Session)

def status : Status :=
  if s.terminated.isSome then .terminated else if s.socket then .online else .offline

def startConnect : Session :=
  { s with dialing := true, nextAttempt := none, stage := .connecting }

def isDue (now : Instant) : Bool :=
  match s.nextAttempt with
  | none => true
  | some time => decide (time.millis ≤ now.millis)

def opened (now : Instant) : Session :=
  { s with
    dialing := false
    socket := true
    stage := .handshaking
    connectedAt := some now
    lastReceived := now
    lastSend := now
    pingSentAt := none }.emit .connected

def pollConnect (t : Moment) (dial : Dial) : Session :=
  if !s.dialing then { s with stage := .disconnected }
  else
    match dial with
    | .underway => s
    | .opened => s.opened t.now
    | .failed reason =>
      { s with dialing := false }.fail t
        (.network ("connect to " ++ s.settings.address ++ " failed: " ++ reason))

def tenths (d : Millis) : String :=
  (Text.Binary64.ofRatio d 1000).fixed 1

/-- Asks for a sign of life when all has been quiet, and gives up when none comes. -/
def keepalive (t : Moment) : Session :=
  match s.pingSentAt with
  | some sent =>
    if s.settings.pingTimeout ≤ t.now.since (s.lastReceived.max sent) then
      s.fail t (.network ("no reply within " ++ tenths s.settings.pingTimeout ++ "s of a ping"))
    else s
  | none =>
    let rate := s.settings.pingRate
    if rate ≤ t.now.since s.lastSend ∨ rate ≤ t.now.since s.lastReceived then
      let (queued, s) := s.send t.now (ping keepaliveToken)
      if 0 < queued then { s with pingSentAt := some t.now } else s
    else s

def refreshRoster (now : Instant) : Session :=
  if s.stage = .fullyConnected ∧ s.settings.rosterRate ≤ now.since s.lastRoster then
    { s with lastRoster := now }.sendAll now [rosterCommand, ping tableEndToken]
  else s

def endPlannedMatch (now : Instant) : Session :=
  match s.gameoverAt with
  | some time =>
    if time.millis ≤ now.millis then
      ({ s with gameoverAt := none }.send now "gameover").2
    else s
  | none => s

def endEmptyMatch (now : Instant) : Session :=
  if s.gameoverWhenEmpty ∧ s.stage = .fullyConnected ∧ s.model.players.all (·.isBot) then
    ({ s with gameoverWhenEmpty := false }.send now "gameover").2
  else s

/-- What is due on an open connection. The handshake and the first answers have only so much
time. -/
def runTimers (t : Moment) : Session :=
  let overdue (since : Option Instant) : Bool :=
    s.settings.pingTimeout ≤ t.now.since (since.getD t.now)
  if s.stage = .handshaking then
    if overdue s.connectedAt then s.fail t (.network "handshake timed out") else s
  else if s.stage = .subscribing ∧ overdue s.subscribedAt then
    s.fail t (.network "initial data not received in time")
  else
    let s := s.keepalive t
    if s.socket then ((s.refreshRoster t.now).endPlannedMatch t.now).endEmptyMatch t.now else s

def drainOutbound (t : Moment) (out : Outflow) : Session :=
  if s.outbound.isEmpty then s
  else if !s.socket then { s with outbound := [] }
  else
    match out with
    | .took bytes => { s with outbound := s.outbound.drop bytes }
    | .ended => s.fail t (.network "socket closed while writing")
    | .failed reason => s.fail t (.io reason)

def settleNames (nameOf : Address → Option String) : Session :=
  { s with model := { s.model with
      players := s.model.players.map fun p => { p with hostName := p.hostName.answer nameOf } } }

end Session

namespace Scene

variable (t : Moment)

def arrive (sc : Scene) (a : Arrival) : Scene :=
  if !sc.session.socket then sc
  else
    match a with
    | .bytes data => sc.processData t data
    | .ended => sc.onSession (·.fail t (.network "connection closed by server"))
    | .failed reason => sc.onSession (·.fail t (.io reason))

/-- Opens the connection, or takes what has arrived and does what is due. -/
def advance (dial : Dial) (arrivals : List Arrival) (sc : Scene) : Scene :=
  match sc.session.stage with
  | .disconnected => if sc.session.isDue t.now then sc.onSession (·.startConnect) else sc
  | .connecting => sc.onSession (·.pollConnect t dial)
  | _ =>
    let sc := (arrivals.take readsPerTurn).foldl (arrive t) sc
    if sc.session.socket then sc.onSession (·.runTimers t) else sc

def conclude (out : Outflow) (sc : Scene) : Scene :=
  (sc.onSession (·.drainOutbound t out)).flush t

/-- Nothing in a turn waits: the network has said before what became of opening the connection and
what arrived, and says afterwards how much of the requests it took. -/
def turn (dial : Dial) (arrivals : List Arrival) (out : Outflow) (sc : Scene) : Scene :=
  if sc.session.terminated.isSome then sc else (sc.advance t dial arrivals).conclude t out

end Scene

end RemoteConsole
