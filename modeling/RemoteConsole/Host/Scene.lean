import RemoteConsole.Host.State

namespace RemoteConsole

open Match (Player)
open Session (Action Reply)

/-- An observer or chat command, by its place among those of its sort. -/
inductive Callee where
  | plugin (place : Nat)
  | handler (place : Nat)
  | command (place : Nat)
  deriving DecidableEq, Inhabited

inductive Notice where
  | event (e : Event)
  | other (line : Wire.Line)
  | raw (text : String)
  | asked (p : Player) (params : String)
  | acted (a : Action) (r : Reply)

structure Callback where
  callee : Callee
  notice : Notice

/-- A session with the host it belongs to, while something happens on it. The journal keeps what
each observer was told and what it did about it. -/
structure Scene where
  host : Host
  session : Session
  journal : Array Callback := #[]

namespace Scene

variable (t : Moment)

def record (callee : Callee) (notice : Notice) (sc : Scene) : Scene :=
  { sc with journal := sc.journal.push ⟨callee, notice⟩ }

def onSession (f : Session → Session) (sc : Scene) : Scene :=
  { sc with session := f sc.session }

def act (callee : Callee) (sc : Scene) (a : Action) : Scene :=
  let (r, session) := sc.session.act t a
  { sc with session }.record callee (.acted a r)

def call (callee : Callee) (notice : Notice) (answer : Session → List Action) (sc : Scene) : Scene :=
  (answer sc.session).foldl (act t callee) (sc.record callee notice)

def callPlugins (notice : Notice) (wants : Plugin → Bool) (answer : Plugin → Session → List Action)
    (sc : Scene) : Scene :=
  sc.host.observers.plugins.zipIdx.foldl
    (fun sc (p, i) => if wants p then sc.call t (.plugin i) notice (answer p) else sc) sc

def callHandlers (e : Event) (sc : Scene) : Scene :=
  sc.host.observers.handlers.zipIdx.foldl
    (fun sc (h, i) =>
      if h.kind == e.kind then sc.call t (.handler i) (.event e) (h.react · e) else sc) sc

def deliver (e : Event) (sc : Scene) : Scene :=
  (sc.callPlugins t (.event e) (·.wants e.kind) (fun p s => p.onEvent s e)).callHandlers t e

def deliverOther (line : Wire.Line) (sc : Scene) : Scene :=
  sc.callPlugins t (.other line) (fun _ => true) (fun p s => p.onOther s line)

def deliverRaw (text : String) (sc : Scene) : Scene :=
  sc.callPlugins t (.raw text) (fun _ => true) (fun p s => p.onRaw s text)

def route (p : Player) (text : String) (sc : Scene) : Bool × Scene :=
  match sc.host.router.route? text with
  | none => (false, sc)
  | some (c, i, params) =>
    (true, sc.call t (.command i) (.asked p params) (c.run sc.host.reference · p params))

/-- Runs the command in a chat message, unless its author may not use any. -/
def routeMessage (p : Player) (message : String) (sc : Scene) : Scene :=
  if sc.host.mark.isEmpty || p.isBanned .bot then sc
  else
    match Text.after? sc.host.mark message with
    | none => sc
    | some text => (sc.route t p text).2

def routeChat (e : Event) (sc : Scene) : Scene :=
  match e with
  | .chat p message | .teamChat p message => sc.routeMessage t p message
  | _ => sc

def flushFrom : (fuel : Nat) → Scene → Scene
  | 0, sc => sc
  | fuel + 1, sc =>
    match sc.session.queue with
    | [] => sc
    | e :: queue =>
      let sc := sc.onSession ({ · with queue })
      flushFrom fuel ((sc.deliver t e).routeChat t e)

/-- Delivers all events that wait. What observers do can add one more, the end of the
connection. -/
def flush (sc : Scene) : Scene :=
  sc.flushFrom t (sc.session.queue.length + 1)

end Scene

end RemoteConsole
