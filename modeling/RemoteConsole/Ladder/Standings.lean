import RemoteConsole.Ladder.Entry
import RemoteConsole.Match.Model
import RemoteConsole.Store.RecordFile

namespace RemoteConsole.Ladder

open Match (Player)
open Store (Failure RecordFile Shelf)

/-- The ladder and the file behind it. Entries stay where they were entered; `order` lists them from
the best down and `index` finds the one of an account. -/
structure Standings where
  file : RecordFile
  entries : List Entry := []
  order : List Nat := []
  index : List (AccountId × Nat) := []
  deriving DecidableEq, Inhabited

abbrev OnLadder (α : Type) := Except Failure α × Standings × Shelf

namespace Standings

variable (s : Standings)

def indexOf? (account : AccountId) : Option Nat :=
  (s.index.find? (·.1 == account)).map Prod.snd

def ranked : List Entry :=
  s.order.filterMap (s.entries[·]?)

def push (e : Entry) : Standings :=
  { s with
    entries := s.entries ++ [e]
    order := s.order ++ [s.entries.length]
    index := s.index ++ [(e.account, s.entries.length)] }

def upsert (account : AccountId) (f : Entry → Entry) : Standings :=
  match s.indexOf? account with
  | some i => { s with entries := s.entries.modify i f }
  | none => s.push (f { account })

def scoreAt (entries : List Entry) (i : Nat) : UInt64 :=
  ((entries[i]?).map (·.totals.score)).getD 0

def sort : Standings :=
  { s with order := s.order.mergeSort fun i j => scoreAt s.entries j ≤ scoreAt s.entries i }

def assignRanks : Standings :=
  { s with
    entries := s.order.zipIdx.foldl
      (fun entries (i, place) => entries.modify i ({ · with rank := place + 1 })) s.entries }

/-- Takes in an entry of the file; a second one of an account is merged into the first. -/
def absorb (e : Entry) : Standings :=
  match s.indexOf? e.account with
  | some i => { s with entries := s.entries.modify i (·.merge e) }
  | none => s.push e

def openAt (now : UInt64) (shelf : Shelf) : Store.OnShelf Standings :=
  match RecordFile.openAt (α := Entry) now shelf with
  | (.error e, shelf) => (.error e, shelf)
  | (.ok found, shelf) =>
    (.ok (found.records.foldl absorb { file := found.file }).sort.assignRanks, shelf)

/-- Bots, players without an account and those banned from the ladder gain nothing. -/
def qualifies (p : Player) : Bool :=
  !p.isBot && p.account != 0 && !p.isBanned .ladder

/-- The whole seconds a player took part: since the match began, or since they joined it. -/
def gameTime (now : Instant) (started : Option Instant) (p : Player) : UInt32 :=
  let since := (started.map p.joinedAt.max).getD p.joinedAt
  saturate32 (now.since since / 1000)

def creditPlayer (now : Instant) (started : Option Instant) (winner : Option Team) (tie : Bool)
    (p : Player) : Standings :=
  let won := !tie && winner == some p.team
  let session := Tally.ofMatch p (gameTime now started p) won tie
  s.upsert p.account fun e => e.credit p session now.unix

def credit (now : Instant) (started : Option Instant) (winner : Option Team) (tie : Bool)
    (players : List Player) : Nat × Standings :=
  let players := players.filter qualifies
  (players.length, (players.foldl (fun s p => s.creditPlayer now started winner tie p) s).sort)

def creditModel (now : Instant) (m : Match.Model) (winner : Option Team) (tie : Bool) :
    Nat × Standings :=
  s.credit now m.startedAt winner tie m.players

def write (shelf : Shelf) : OnLadder Unit :=
  let s := s.assignRanks
  match RecordFile.writeAll s.ranked shelf with
  | (.error e, shelf) => (.error e, s, shelf)
  | (.ok file, shelf) => (.ok (), { s with file }, shelf)

def append (e : Entry) (shelf : Shelf) : OnLadder Unit :=
  match s.indexOf? e.account with
  | some i => (.ok (), { s with entries := s.entries.set i e }.sort.assignRanks, shelf)
  | none =>
    match s.file.append e shelf with
    | (.error e, shelf) => (.error e, s, shelf)
    | (.ok (_, file), shelf) => (.ok (), ({ s with file }.push e).sort.assignRanks, shelf)

/-- Empties the ladder, even if the file cannot be emptied. -/
def erase (shelf : Shelf) : OnLadder Unit :=
  match RecordFile.writeAll (α := Entry) [] shelf with
  | (.error e, shelf) => (.error e, { file := s.file }, shelf)
  | (.ok file, shelf) => (.ok (), { file }, shelf)

def ofAccount? (account : AccountId) : Option Entry :=
  (s.indexOf? account).bind (s.entries[·]?)

def ofName? (name : String) : Option Entry :=
  s.ranked.find? fun e => Text.sameLetters e.name name

def allOfPart (part : String) : List Entry :=
  s.ranked.filter fun e => Text.mentions e.name part

def ofPart? (part : String) : Option Entry :=
  s.ranked.find? fun e => Text.mentions e.name part

def ofRank? : (rank : Nat) → Option Entry
  | 0 => none
  | place + 1 => (s.order[place]?).bind (s.entries[·]?)

def lastUpdate? : Option UInt64 :=
  let latest := s.entries.foldl (fun t e => max t e.lastGame) 0
  if latest = 0 then none else some latest

def age? (now : UInt64) : Option Nat :=
  s.lastUpdate?.map (now.toNat - ·.toNat)

end Standings

end RemoteConsole.Ladder
