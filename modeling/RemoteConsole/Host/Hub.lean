import RemoteConsole.Host.Turn

namespace RemoteConsole

/-- All sessions of a host. Their names differ even when the case of letters is left aside. -/
structure Hub where
  sessions : List Session := []

namespace Hub

variable (hub : Hub)

def get? (name : String) : Option Session :=
  hub.sessions.find? fun s => Text.sameLetters s.name name

def add (now : Instant) (settings : ServerSettings) : Bool × Hub :=
  if (hub.get? settings.name).isSome then (false, hub)
  else (true, ⟨hub.sessions ++ [.idle settings now]⟩)

structure Round where
  host : Host
  sessions : List Session := []
  journal : List (String × Callback) := []

/-- Takes a session in after its turn, unless it has ended for good. -/
def Round.after (r : Round) (sc : Scene) : Round where
  host := sc.host
  sessions := if sc.session.status = .terminated then r.sessions else r.sessions ++ [sc.session]
  journal := r.journal ++ sc.journal.toList.map fun c => (sc.session.name, c)

def tick {m : Type → Type} [Monad m] (turn : Scene → m Scene) (host : Host) : m Round :=
  hub.sessions.foldlM (fun r s => r.after <$> turn ⟨r.host, s, #[]⟩) { host }

def Round.online (r : Round) : Nat :=
  r.sessions.countP (·.status == .online)

def broadcast (now : Instant) (message : String) : Nat × Hub :=
  let said := hub.sessions.map fun s => if s.isFullyConnected then s.say now message else (0, s)
  (said.countP (0 < ·.1), ⟨said.map Prod.snd⟩)

def shutDown (reason : String) : Hub :=
  ⟨hub.sessions.map (·.terminate reason)⟩

end Hub

end RemoteConsole
