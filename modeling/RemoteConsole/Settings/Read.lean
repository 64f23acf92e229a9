import RemoteConsole.Fault
import RemoteConsole.Settings.Host
import RemoteConsole.Text.Terminal
import RemoteConsole.Text.Utf8

namespace RemoteConsole.Settings

inductive Line where
  | empty
  | server (name : String)
  | unknown (header : String)
  | option (key value : String)
  | unreadable
  deriving DecidableEq, Inhabited

def header? (line : List Char) : Option (List Char) :=
  match line with
  | '[' :: rest => if rest.getLast? = some ']' then some rest.dropLast else none
  | _ => none

def sectionLine (header : String) : Line :=
  match Text.splitAtBlank? header with
  | some (kind, name) =>
    if Text.sameLetters kind "server" then .server (Text.trim name) else .unknown header
  | none => .unknown header

def Line.read (text : List Char) : Line :=
  let line := Text.trimChars text
  if line.isEmpty ∨ line.head? = some '#' then .empty
  else
    match header? line with
    | some header => sectionLine (.ofList (Text.trimChars header))
    | none =>
      match Text.cutAt? (· == '=') line with
      | none => .unreadable
      | some (key, value) =>
        .option (Text.lowerAscii (.ofList (Text.trimChars key))) (.ofList (Text.trimChars value))

inductive Remark where
  | unknownSection (line : Nat) (header : String)
  | noAssignment (line : Nat)
  | noHost (server : String)
  | noPassword (server : String)
  deriving DecidableEq, Inhabited

def Remark.message : Remark → String
  | .unknownSection line header =>
    "Line " ++ toString line ++ ": ignoring unknown section [" ++ header ++ "]"
  | .noAssignment line => "Line " ++ toString line ++ ": expected key = value"
  | .noHost server => "Server '" ++ server ++ "' has no hostname; skipping"
  | .noPassword server => "Server '" ++ server ++ "' has no password; authentication will fail"

structure Reading where
  host : HostSettings := {}
  current : Option ServerSettings := none
  remarks : List Remark := []
  deriving DecidableEq, Inhabited

namespace Reading

variable (r : Reading)

def remark (m : Remark) : Reading :=
  { r with remarks := r.remarks ++ [m] }

/-- Ends the open section. A server without a host is left out. -/
def close : Reading :=
  match r.current with
  | none => r
  | some s =>
    let r := { r with current := none }
    if s.host.isEmpty then r.remark (.noHost s.name)
    else
      let r := if s.password.isEmpty then r.remark (.noPassword s.name) else r
      { r with host := { r.host with servers := r.host.servers ++ [s] } }

def take (number : Nat) (line : Line) : Reading :=
  match line with
  | .empty => r
  | .server name => { r.close with current := some { name } }
  | .unknown header => r.close.remark (.unknownSection number header)
  | .unreadable => r.remark (.noAssignment number)
  | .option key value =>
    match r.current with
    | some s => { r with current := some (s.set key value) }
    | none => { r with host := r.host.set key value }

end Reading

def readLines (lines : List Line) : Reading :=
  ((lines.zipIdx 1).foldl (fun r (line, number) => r.take number line) ({} : Reading)).close

/-- The settings in a text, which have to name a server. The remarks come either way. -/
def read (text : String) : Except Fault HostSettings × List Remark :=
  let r := readLines ((Text.piecesOf '\n' text.toList).map Line.read)
  if r.host.servers.isEmpty then
    (.error (.config "no [server NAME] section with a hostname"), r.remarks)
  else (.ok r.host, r.remarks)

def ofContent (content : Option (List UInt8)) : Except Fault HostSettings × List Remark :=
  match content.bind Text.Utf8.decode? with
  | none => (.error (.io "the settings file cannot be read"), [])
  | some text => read text

def logLines (found : Except Fault HostSettings × List Remark) : List String :=
  let summary := match found.1 with
    | .ok settings => settings.summary
    | .error _ => []
  found.2.map (fun r => "WARN " ++ Text.Terminal.encode r.message) ++
    summary.map fun line => "INFO " ++ Text.Terminal.encode line

end RemoteConsole.Settings
