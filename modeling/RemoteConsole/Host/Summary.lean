import RemoteConsole.Host.State
import RemoteConsole.Text.Quoted

namespace RemoteConsole

open Text.Quoted (encodeList)

def Chat.Router.summary (r : Chat.Router) : String :=
  "GameCommandRouter \x7b triggers: " ++ encodeList r.triggers ++ " \x7d"

def Observers.summary (o : Observers) : String :=
  "EventDispatcher \x7b plugins: " ++ encodeList (o.plugins.map (·.name)) ++ ", handlers: " ++
    toString o.handlers.length ++ " \x7d"

def Host.lookupSummary (h : Host) : String :=
  let free := if h.lookups = 0 then "None" else "Some(" ++ toString h.lookups ++ ")"
  "RdnsPool \x7b available: " ++ free ++ " \x7d"

def Host.summary (h : Host) : List String :=
  [h.router.summary, h.observers.summary, h.lookupSummary]

end RemoteConsole
