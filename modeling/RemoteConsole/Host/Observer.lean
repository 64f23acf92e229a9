import RemoteConsole.Ban.Entry
import RemoteConsole.Session.Action
import RemoteConsole.Wire.Line

namespace RemoteConsole

open Session (Action)

/-- An observer sees the session and answers with actions on it, which take place at once. What it
knows from earlier calls it has kept in the session's memory. -/
structure Plugin where
  name : String
  wants : EventKind → Bool := fun _ => true
  onEvent : Session → Event → List Action := fun _ _ => []
  onOther : Session → Wire.Line → List Action := fun _ _ => []
  onRaw : Session → String → List Action := fun _ _ => []
  annotate : Ban.Entry → List Pair := fun _ => []

structure Handler where
  kind : EventKind
  react : Session → Event → List Action := fun _ _ => []

/-- All observers, each list in the order in which they came. -/
structure Observers where
  plugins : List Plugin := []
  handlers : List Handler := []

def Observers.annotate (o : Observers) (b : Ban.Entry) : List Pair :=
  o.plugins.flatMap (·.annotate b)

end RemoteConsole
