import RemoteConsole.Feed.Stores
import RemoteConsole.Host.Hub
import RemoteConsole.Program.Arguments
import RemoteConsole.Program.Disk
import RemoteConsole.Settings.Read

namespace RemoteConsole.Program

open Store (Shelf)

structure Finish where
  code : UInt32
  output : String := ""
  complaint : String := ""
  deriving Inhabited

structure Running where
  settings : HostSettings
  host : Host
  hub : Hub

inductive Progress where
  | finished (f : Finish)
  | running (r : Running)

def giveUp (complaint : String) : Finish where
  code := 1
  complaint := "Error: " ++ complaint ++ "\n"

def crash (complaint : String) : Finish where
  code := 101
  complaint := complaint ++ "\n"

variable {m : Type → Type} [Monad m] (disk : Disk m)

def openStore {σ : Type} (openAt : Shelf → Store.OnShelf σ) (path : String) :
    m (Option (σ × Shelf)) := do
  let found ← disk.load path
  let (opened, shelf) := openAt found
  let saved ← if shelf = found then pure true else disk.save path shelf
  return match opened with
    | .ok store => if saved then some (store, { shelf with backups := [] }) else none
    | .error _ => none

def dump (now : Instant) (settings : HostSettings) (count : Nat) : m Finish := do
  match settings.ladderFile with
  | none => return giveUp "no ladder file is configured"
  | some path =>
    match ← openStore disk (Ladder.Standings.openAt now.unix) path with
    | none => return giveUp ("failed to open " ++ path)
    | some (standings, _) =>
      let top := Json.list Ladder.Entry.json (standings.ranked.take count)
      return { code := 0, output := top.pretty "" ++ "\n" }

def openNamed {σ : Type} (openAt : Shelf → Store.OnShelf σ) :
    Option String → m (Option (Option (σ × Shelf)))
  | none => return some none
  | some path => do return (← openStore disk openAt path).map some

/-- Beyond this many the lookups under way cannot be counted. -/
def mostLookups : Nat :=
  0x1FFFFFFFFFFFFFFF

def begin (now : Instant) (settings : HostSettings) : m Progress := do
  let failed := Progress.finished (giveUp "failed to open the persistent stores")
  let some bans ← openNamed disk (Ban.Book.openAt now.unix) settings.banFile | return failed
  let some ladder ← openNamed disk (Ladder.Standings.openAt now.unix) settings.ladderFile
    | return failed
  if mostLookups < settings.lookups then
    return .finished (crash "too many lookups at once")
  if settings.tickRate = 0 then
    return .finished (crash "the tick rate must not be zero")
  let hub := settings.servers.foldl (fun hub s => (hub.add now s).2) ({} : Hub)
  return .running {
    settings, hub
    host := { mark := settings.commandMark, bans, ladder, lookups := settings.lookups } }

def start (now : Instant) (words : List String) : m Progress := do
  match parse words with
  | .help => return .finished { code := 0, output := helpText }
  | .misuse complaint =>
    return .finished { code := 2, complaint := "error: " ++ complaint ++ "\n" }
  | .run args =>
    match Settings.ofContent (← disk.load args.config).content? with
    | (.error fault, _) =>
      return .finished
        (giveUp ("failed to load " ++ args.config ++ ": " ++ fault.message))
    | (.ok settings, _) =>
      match args.dump with
      | some count => return .finished (← dump disk now settings count)
      | none => begin disk now settings

namespace Running

variable (r : Running)

def isOver : Bool :=
  r.hub.sessions.isEmpty

def round (turn : Scene → m Scene) : m Running := do
  let round ← r.hub.tick turn r.host
  return { r with host := round.host, hub := ⟨round.sessions⟩ }

def keep (before : Running) : m Unit := do
  if let (some path, some (_, shelf)) := (r.settings.banFile, r.host.bans) then
    if before.host.bans.map Prod.snd ≠ some shelf then
      discard (disk.save path shelf)
  if let (some path, some (_, shelf)) := (r.settings.ladderFile, r.host.ladder) then
    if before.host.ladder.map Prod.snd ≠ some shelf then
      discard (disk.save path shelf)

def shutDown : Running :=
  { r with hub := r.hub.shutDown "host shutting down" }

def stop : m Finish := do
  let failed := giveUp "failed to save the ladder"
  match r.host.saveLadder, r.settings.ladderFile with
  | (.ok (), host), some path =>
    match host.ladder with
    | none => return { code := 0 }
    | some (_, shelf) => return if ← disk.save path shelf then { code := 0 } else failed
  | (.ok (), _), none => return { code := 0 }
  | (.error _, _), _ => return failed

end Running

end RemoteConsole.Program
