import RemoteConsole.GameLog.Classify
import RemoteConsole.Host.Scene
import RemoteConsole.Match.Answer
import RemoteConsole.Wire.Banner

namespace RemoteConsole

open Match (Player Table)
open Wire (Line Bytes)

namespace Session

def rosterCommand : String :=
  "clientvarlist ID Name Team Kills Deaths Score Credits Ping IP HWID Steam Admin IsBot"

def initToken : String :=
  "srv_init_done"

def keepaliveToken : String :=
  "keepalive"

def tableEndToken : String :=
  "table_end"

def ping (token : String) : String :=
  "ping " ++ token

variable (s : Session)

def receiveBanner (t : Moment) (line : Bytes) : Session :=
  match Wire.Banner.parse? line with
  | none => s.fail t (.protocol ("malformed version banner: " ++ Text.Utf8.decode line))
  | some banner =>
    match Wire.delimiterOf? banner.protocol with
    | none =>
      s.fail t (.protocol
        ("unsupported RCON protocol version " ++ toString banner.protocol.toNat))
    | some delimiter =>
      let s := { s with
        delimiter := some delimiter, protocol := banner.protocol, gameVersion := banner.game }
      (s.request t.now (.authenticate s.settings.password)).2

def receiveAuthenticated (now : Instant) (line : Line) : Session :=
  if s.stage ≠ .handshaking then s
  else
    let user := line.field 0
    let s := { s with user, attempts := 0, stage := .subscribing, subscribedAt := some now }
    let s := (s.request now .subscribe).2
    (s.sendAll now [rosterCommand, "binfo", "gameinfo", "rotation", ping initToken]).emit
      (.authenticated user)

/-- During the handshake an error means that the password is wrong. -/
def receiveError (t : Moment) (line : Line) : Session :=
  let message := line.joined " "
  if s.stage = .handshaking then s.fail t (.authentication message)
  else s.emit (.serverError message)

def receivePong (now : Instant) (token : String) : Session :=
  let s := { s with pingSentAt := none }
  if token = initToken ∧ s.stage = .subscribing then
    { s with subscribedAt := none, stage := .fullyConnected, lastRoster := now }.emit .fullyConnected
  else s

def receiveResponse (now : Instant) (line : Line) : Session :=
  if line.field 0 = "PONG" then s.receivePong now (line.field 1)
  else { s with response := s.response.map (·.push line.fields) }

def syncTravelling : Session :=
  match s.stage, s.model.phase.travelling with
  | .fullyConnected, true => { s with stage := .travelling }
  | .travelling, false => { s with stage := .fullyConnected }
  | _, _ => s

end Session

namespace Scene

variable (t : Moment) (sc : Scene)

def screen (id : PlayerId) : Ban.Flags × Scene :=
  match sc.session.model.player? id with
  | none => (.none, sc)
  | some p =>
    let p := { p with hostName := sc.host.lookUp p.address p.hostName }
    let (kinds, p, host) :=
      if sc.session.settings.banCheck then sc.host.checkBans t.now p else (.none, p, sc.host)
    (kinds, { sc with host }.onSession fun s => { s with model := s.model.edit id fun _ => p })

def screened (p : Player) : Ban.Flags × Player × Scene :=
  let (kinds, sc) := sc.screen t p.id
  (kinds, (sc.session.model.player? p.id).getD p, sc)

def finishMatch (outcome : GameLog.Outcome) : Scene :=
  let sc := sc.onSession fun s => { s with gameoverAt := none, gameoverWhenEmpty := false }
  if sc.session.settings.ladder then
    { sc with host := sc.host.credit t.now sc.session.model outcome.winner outcome.tie }
  else sc

/-- The host's own part in an event: the bans it brought up, and the event to tell of. -/
def attend (e : Event) : Ban.Flags × Event × Scene :=
  match e with
  | .playerJoin p =>
    let (kinds, p, sc) := sc.screened t p
    (kinds, .playerJoin p, sc)
  | .playerDiscovered p =>
    let (kinds, p, sc) := sc.screened t p
    (kinds, .playerDiscovered p, sc)
  | .matchEnd outcome => (.none, e, sc.finishMatch t outcome)
  | .mapStart _ =>
    (.none, e, sc.onSession
      (·.sendAll t.now ["binfo", "gameinfo", Session.ping Session.tableEndToken]))
  | _ => (.none, e, sc)

def banReason : String :=
  "You are banned from this server."

def handle (sc : Scene) (e : Event) : Scene :=
  let (kinds, e, sc) := sc.attend t e
  let sc := sc.onSession (·.emit e)
  match e.player? with
  | none => sc
  | some p =>
    if kinds.isEmpty then sc
    else
      let sc :=
        if kinds.contains .game then sc.onSession fun s => (s.kick t.now p.id banReason).2 else sc
      sc.onSession (·.emit (.banMatched p kinds))

def handleAll (r : Match.Model × List Event) : Scene :=
  r.2.foldl (handle t) (sc.onSession ({ · with model := r.1 }))

/-- Applies the answer that has come in, if there is one. An answer ends where another kind of line
begins, so every question is followed by a `ping` whose echo ends it. -/
def finishResponse : Scene :=
  match sc.session.response with
  | none => sc
  | some table =>
    let sc := sc.onSession ({ · with response := none })
    sc.handleAll t (sc.session.model.applyTable t.now table)

def receive (line : Line) : Bool × Scene :=
  match line.kind with
  | .version => (false, sc)
  | .authenticated => (true, sc.onSession (·.receiveAuthenticated t.now line))
  | .error => (true, sc.onSession (·.receiveError t line))
  | .echo => (true, sc.onSession ({ · with response := some { command := line.field 0 } }))
  | .response => (true, sc.onSession (·.receiveResponse t.now line))
  | .log =>
    let entry := GameLog.classify line
    if entry.isKnown then (true, sc.handleAll t (sc.session.model.apply t.now entry))
    else (false, sc)
  | .other _ => (false, sc)

def processBanner (line : Bytes) : Scene :=
  ((sc.onSession (·.receiveBanner t line)).flush t).deliverRaw t (Text.Utf8.decode line)

def processFields (line : Line) : Scene :=
  let sc := if line.kind = .response then sc else sc.finishResponse t
  let (recognised, sc) := sc.receive t line
  let sc := (sc.onSession (·.syncTravelling)).flush t
  let sc := if recognised then sc else sc.deliverOther t line
  sc.deliverRaw t line.raw

def processLine (line : Bytes) : Scene :=
  match sc.session.delimiter with
  | none => sc.processBanner t line
  | some delimiter =>
    match Line.parse? delimiter line with
    | none => sc
    | some line => sc.processFields t line

def processLines : (fuel : Nat) → Scene → Scene
  | 0, sc => sc
  | fuel + 1, sc =>
    if sc.session.terminated.isSome then sc
    else
      match sc.session.framer.next with
      | (none, framer) => sc.onSession ({ · with framer })
      | (some line, framer) =>
        processLines fuel ((sc.onSession ({ · with framer })).processLine t line)

/-- Takes bytes from the server. Lines that are complete are processed at once, and there are never
more of them than bytes. -/
def processData (data : Bytes) : Scene :=
  let sc := sc.onSession fun s =>
    { s with framer := s.framer.push data, lastReceived := t.now }
  (processLines t (sc.session.framer.buffer.length + 1) sc).flush t

/-- Stores a ban against a player of the model, and kicks them; tells how many bytes were
queued. -/
def banPlayer (id : PlayerId) (banner reason : String) (duration : UInt64) : Nat × Scene :=
  let sc := match sc.session.model.player? id with
    | none => sc
    | some p =>
      let p := { p with banFlags := p.banFlags.union .game }
      let (_, host) := sc.host.addBan t.now p banner reason duration .game
      { sc with host }.onSession fun s => { s with model := s.model.edit id fun _ => p }
  let (queued, session) := sc.session.kick t.now id reason
  (queued, { sc with session })

end Scene

end RemoteConsole
