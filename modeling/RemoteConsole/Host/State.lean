import RemoteConsole.Ban.Book
import RemoteConsole.Chat.Builtin
import RemoteConsole.Host.Observer

namespace RemoteConsole

open Match (Player HostName)
open Store (Shelf)

structure Host where
  mark : String := "!"
  observers : Observers := {}
  router : Chat.Router := Chat.builtin
  bans : Option (Ban.Book × Shelf) := none
  ladder : Option (Ladder.Standings × Shelf) := none
  /-- How many host names may be looked up at once; zero for none at all. -/
  lookups : Nat := 4

namespace Host

variable (h : Host)

def reference : Chat.Reference where
  mark := h.mark
  triggers := h.router.triggers
  help? := h.router.help?
  ladder := h.ladder.map Prod.fst

/-- Stores a ban with what the plugins have to add, and tells its index if that worked. -/
def addBan (now : Instant) (p : Player) (banner reason : String) (duration : UInt64)
    (kinds : Ban.Flags) : Option Nat × Host :=
  match h.bans with
  | none => (none, h)
  | some (book, shelf) =>
    let (r, book, shelf) :=
      book.add now.unix p banner reason duration kinds h.observers.annotate shelf
    (r.toOption, { h with bans := some (book, shelf) })

/-- Marks a player with their bans, and tells what these forbid. -/
def checkBans (now : Instant) (p : Player) : Ban.Flags × Player × Host :=
  match h.bans with
  | none => (.none, p, h)
  | some (book, shelf) =>
    let (r, book, shelf) := book.check now.unix p shelf
    let h := { h with bans := some (book, shelf) }
    match r with
    | .error _ => (.none, p, h)
    | .ok (kinds, p) => (kinds, p, h)

def looksUp (a : Address) (name : HostName) : Bool :=
  h.lookups != 0 && a.isKnown && name.isPending

def lookUp (a : Address) (name : HostName) : HostName :=
  if h.looksUp a name then name.ask a else name

def credit (now : Instant) (m : Match.Model) (winner : Option Team) (tie : Bool) : Host :=
  match h.ladder with
  | none => h
  | some (standings, shelf) =>
    let (credited, standings) := standings.creditModel now m winner tie
    if credited = 0 then { h with ladder := some (standings, shelf) }
    else
      let (_, standings, shelf) := standings.write shelf
      { h with ladder := some (standings, shelf) }

def saveLadder : Except Store.Failure Unit × Host :=
  match h.ladder with
  | none => (.ok (), h)
  | some (standings, shelf) =>
    let (r, standings, shelf) := standings.write shelf
    (r, { h with ladder := some (standings, shelf) })

end Host

end RemoteConsole
