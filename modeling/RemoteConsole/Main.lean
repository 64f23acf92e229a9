import RemoteConsole.Program.Run
import Std.Async.DNS
import Std.Async.Signal
import Std.Async.TCP
import Std.Async.Timer

namespace RemoteConsole.Program

open Std.Async (Async AsyncTask)
open Std.Async.TCP.Socket (Client)
open Std.Net (IPAddr IPv4Addr SocketAddress)
open Store (Shelf)

def readPath (path : String) : IO Shelf := do
  try
    let content ← IO.FS.readBinFile path
    return { node := .file content.toList }
  catch
    | .noFileOrDirectory .. => return {}
    | _ => return { node := .directory }

def writeBytes (path : String) (content : Store.Bytes) : IO Unit :=
  IO.FS.writeBinFile path ⟨content.toArray⟩

def writePath (path : String) (shelf : Shelf) : IO Bool := do
  try
    for (time, content) in shelf.backups do
      writeBytes (backupPath path time) content
    match shelf.node with
    | .file content => writeBytes path content
    | .missing => IO.FS.removeFile path
    | .directory => pure ()
    return true
  catch _ => return false

def disk : Disk IO where
  load := readPath
  save := writePath

def readClock : IO Moment := do
  let now ← Std.Time.Timestamp.now
  return { now := ⟨now.toMillisecondsSinceUnixEpoch.val⟩, jitter := ← IO.rand 0 1000 }

inductive Link where
  | dialing (task : AsyncTask (Option Client))
  | live (client : Client) (read : AsyncTask (Option ByteArray)) (write : AsyncTask Unit)

def readSize : UInt64 :=
  8192 * 64

def spawn {α : Type} (x : Async α) : IO (AsyncTask α) :=
  Async.toIO x

def ended? {α : Type} (task : AsyncTask α) : IO (Option (Except IO.Error α)) := do
  if ← IO.hasFinished task then return some task.get else return none

def socketAddress (tcpPort : UInt16) : IPAddr → SocketAddress
  | .v4 addr => .v4 ⟨addr, tcpPort⟩
  | .v6 addr => .v6 ⟨addr, tcpPort⟩

def connectAny (tcpPort : UInt16) : List IPAddr → Async Client
  | [] => throw (IO.userError "no address for that name")
  | addr :: others => do
    try
      let client ← Client.mk
      client.connect (socketAddress tcpPort addr)
      return client
    catch fault =>
      if others.isEmpty then throw fault else connectAny tcpPort others

def connect (s : ServerSettings) : Async (Option Client) := do
  let found ← Std.Async.DNS.getAddrInfo s.host (toString s.tcpPort.toNat)
  let client ← connectAny s.tcpPort found.toList
  client.noDelay
  return some client

def expire (s : ServerSettings) : Async (Option Client) := do
  Std.Async.sleep ⟨s.connectTimeout⟩
  return none

abbrev Links := IO.Ref (List (String × Link))

namespace Links

variable (links : Links)

def find? (name : String) : IO (Option Link) := do
  return (← links.get).lookup name

def put (name : String) (link : Option Link) : IO Unit :=
  links.modify fun all =>
    let others := all.filter (·.1 != name)
    match link with
    | none => others
    | some link => (name, link) :: others

def receive (client : Client) : IO (AsyncTask (Option ByteArray)) :=
  spawn (client.recv? readSize)

def poll (name : String) : IO (Dial × List Arrival) := do
  match ← links.find? name with
  | none => return (.underway, [])
  | some (.dialing task) =>
    match ← ended? task with
    | none => return (.underway, [])
    | some (.error e) => return (.failed (toString e), [])
    | some (.ok none) => return (.failed "connect timed out", [])
    | some (.ok (some client)) =>
      links.put name (some (.live client (← receive client) (.pure ())))
      return (.opened, [])
  | some (.live client read write) =>
    match ← ended? read with
    | none => return (.underway, [])
    | some (.error e) => return (.underway, [.failed (toString e)])
    | some (.ok none) => return (.underway, [.ended])
    | some (.ok (some data)) =>
      links.put name (some (.live client (← receive client) write))
      return (.underway, [.bytes data.toList])

def push (s : Session) : IO Outflow := do
  match ← links.find? s.name with
  | some (.live client read write) =>
    match ← ended? write with
    | none => return .took 0
    | some (.error e) => return .failed (toString e)
    | some (.ok ()) =>
      if s.outbound.isEmpty then return .took 0
      let write ← spawn (client.send ⟨s.outbound.toArray⟩)
      links.put s.name (some (.live client read write))
      return .took s.outbound.length
  | _ => return .took 0

def follow (s : Session) : IO Unit := do
  if s.dialing then
    if (← links.find? s.name).isNone then
      let task ← spawn (Async.race (connect s.settings) (expire s.settings))
      links.put s.name (some (.dialing task))
  else if !s.socket then
    if let some (.live client _ _) ← links.find? s.name then
      discard (spawn client.shutdown)
    links.put s.name none

def turn (t : Moment) (sc : Scene) : IO Scene := do
  if sc.session.terminated.isSome then return sc
  let (dial, arrivals) ← links.poll sc.session.name
  let sc := sc.advance t dial arrivals
  let sc := sc.conclude t (← links.push sc.session)
  links.follow sc.session
  return sc

end Links

abbrev Lookups := IO.Ref (List (Address × AsyncTask String))

def hostNameOf (a : Address) : Async String := do
  let n := a.bits
  let part (shift : UInt32) : UInt8 := (n >>> shift).toUInt8
  let addr := IPv4Addr.ofParts (part 24) (part 16) (part 8) (part 0)
  return (← Std.Async.DNS.getNameInfo (.v4 ⟨addr, 0⟩)).host

namespace Lookups

variable (lookups : Lookups)

def start (r : Running) : IO Unit := do
  for s in r.hub.sessions do
    for p in s.model.players do
      if let .pending (some a) := p.hostName then
        let running ← lookups.get
        if (running.lookup a).isNone && running.length < r.host.lookups then
          lookups.set ((a, ← spawn (hostNameOf a)) :: running)

def settle (r : Running) : IO Running := do
  let mut known : List (Address × String) := []
  let mut running := []
  for (a, task) in ← lookups.get do
    match ← ended? task with
    | none => running := (a, task) :: running
    | some found => known := (a, found.toOption.getD a.toString) :: known
  lookups.set running
  return { r with hub := ⟨r.hub.sessions.map (·.settleNames fun a => known.lookup a)⟩ }

end Lookups

partial def loop (links : Links) (lookups : Lookups) (interrupt : AsyncTask Int) (r : Running) :
    IO Finish := do
  let t ← readClock
  let next ← r.round (links.turn t)
  next.keep disk r
  lookups.start next
  let next ← lookups.settle next
  let interrupted ← IO.hasFinished interrupt
  if next.isOver || interrupted then
    for s in next.shutDown.hub.sessions do
      links.follow s
    next.stop disk
  else
    IO.sleep (.ofNat r.settings.tickRate)
    loop links lookups interrupt next

def launch (words : List String) : IO Finish := do
  match ← start disk (← readClock).now words with
  | .finished f => return f
  | .running r =>
    let interrupt ← (← Std.Async.Signal.Waiter.mk .sigint false).wait
    loop (← IO.mkRef []) (← IO.mkRef []) interrupt r

end RemoteConsole.Program

def main (words : List String) : IO UInt32 := do
  let f ← RemoteConsole.Program.launch words
  IO.print f.output
  IO.eprint f.complaint
  return f.code
