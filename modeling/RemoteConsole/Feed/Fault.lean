import RemoteConsole.Fault
import RemoteConsole.Json
import RemoteConsole.Store.Failure

namespace RemoteConsole

def Json.fault (kind message : String) : Json :=
  .obj (("error", .str kind) :: if kind = "Io" then [] else [("message", .str message)])

def Fault.json (f : Fault) : Json :=
  .fault (match f with
    | .protocol _ => "Protocol"
    | .io _ => "Io"
    | .network _ => "Network"
    | .authentication _ => "Authentication"
    | .config _ => "Config"
    | .notFound _ => "NotFound"
    | .invalidData _ => "InvalidData") f.message

def Store.Failure.json (f : Store.Failure) : Json :=
  .fault (match f with
    | .io => "Io"
    | .truncated _ => "Truncated"
    | .corrupt _ => "Corrupt"
    | .unsupported .. => "UnsupportedVersion"
    | .schema _ => "Schema"
    | .outOfRange _ => "OutOfRange") f.message

end RemoteConsole
