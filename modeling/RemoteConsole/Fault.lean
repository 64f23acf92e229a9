namespace RemoteConsole

/-- What can go wrong on the way to a server. A terminal fault ends a session for good; after any
other a new connection is tried. -/
inductive Fault where
  | protocol (detail : String)
  | io (detail : String)
  | network (detail : String)
  | authentication (detail : String)
  | config (detail : String)
  | notFound (detail : String)
  | invalidData (detail : String)
  deriving DecidableEq, Inhabited

namespace Fault

def message : Fault → String
  | .protocol detail => "Protocol error: " ++ detail
  | .io detail => "IO error: " ++ detail
  | .network detail => "Network error: " ++ detail
  | .authentication detail => "Authentication failed: " ++ detail
  | .config detail => "Configuration error: " ++ detail
  | .notFound detail => "Not found: " ++ detail
  | .invalidData detail => "Invalid data: " ++ detail

def isTerminal : Fault → Bool
  | .authentication _ | .protocol _ | .config _ => true
  | _ => false

end Fault

end RemoteConsole
