import RemoteConsole.Ban.Entry
import RemoteConsole.Store.RecordFile

namespace RemoteConsole.Ban

open Store (Failure RecordFile Shelf)

/-- All bans, and the file behind them. Bans are never removed: one that is lifted loses the bit
that says it is in force, in the list and at its place in the file. -/
structure Book where
  file : RecordFile
  entries : List Entry
  deriving DecidableEq, Inhabited

abbrev OnBook (α : Type) := Except Failure α × Book × Shelf

namespace Book

def openAt (now : UInt64) (shelf : Shelf) : Store.OnShelf Book :=
  match RecordFile.openAt (α := Entry) now shelf with
  | (.error e, shelf) => (.error e, shelf)
  | (.ok found, shelf) => (.ok ⟨found.file, found.records⟩, shelf)

def enter (b : Entry) (book : Book) (shelf : Shelf) : OnBook Nat :=
  match book.file.append b shelf with
  | (.error e, shelf) => (.error e, book, shelf)
  | (.ok (_, file), shelf) => (.ok book.entries.length, ⟨file, book.entries ++ [b]⟩, shelf)

/-- Bans a player. Observers see the ban before it is stored, and their pairs are stored with it. -/
def add (now : UInt64) (p : Match.Player) (banner reason : String) (duration : UInt64)
    (kinds : Flags) (annotate : Entry → List Pair) (book : Book) (shelf : Shelf) : OnBook Nat :=
  let b := Entry.against p banner reason duration kinds now
  enter { b with extra := b.extra.insertAll (annotate b) } book shelf

def flagsOffset? (book : Book) (index : Nat) : Option Nat := do
  let field ← schema.fixedOffset? "flags" schema.current
  let start ← book.file.offsetOf? index
  return start + field

/-- Lifts a ban; tells whether it was in force. The list changes even if the file cannot. -/
def deactivate (index : Nat) (book : Book) (shelf : Shelf) : OnBook Bool :=
  match book.entries[index]? with
  | none => (.error (.outOfRange index), book, shelf)
  | some b =>
    if !b.isActive then (.ok false, book, shelf)
    else
      let book := { book with entries := book.entries.set index b.lift }
      match book.flagsOffset? index with
      | none => (.error (.outOfRange index), book, shelf)
      | some offset =>
        match book.file.patch offset (Store.Value.word16 b.lift.flags.bits).bytes shelf with
        | (.error e, shelf) => (.error e, book, shelf)
        | (.ok (), shelf) => (.ok true, book, shelf)

/-- Lifts bans one after the other until one cannot be lifted. -/
def deactivateAll : (indices : List Nat) → Book → Shelf → OnBook Unit
  | [], book, shelf => (.ok (), book, shelf)
  | index :: indices, book, shelf =>
    match book.deactivate index shelf with
    | (.error e, book, shelf) => (.error e, book, shelf)
    | (.ok _, book, shelf) => deactivateAll indices book shelf

def against (book : Book) (p : Match.Player) : List (Entry × Nat) :=
  book.entries.zipIdx.filter fun (b, _) => b.isActive && b.concerns p

/-- Marks a player with all that is forbidden to them, and tells it. Bans that have run out are
lifted instead of applied; if that fails the player stays unmarked. -/
def check (now : UInt64) (p : Match.Player) (book : Book) (shelf : Shelf) :
    OnBook (Flags × Match.Player) :=
  let (expired, held) := (book.against p).partition fun (b, _) => b.isExpired now
  let kinds := held.foldl (fun kinds (b, _) => kinds.union b.flags.kinds) Flags.none
  match book.deactivateAll (expired.map Prod.snd) shelf with
  | (.error e, book, shelf) => (.error e, book, shelf)
  | (.ok (), book, shelf) => (.ok (kinds, { p with banFlags := p.banFlags.union kinds }), book, shelf)

variable (book : Book)

def indicesOf (holds : Entry → Bool) : List Nat :=
  (book.entries.zipIdx.filter fun (b, _) => holds b).map Prod.snd

def active : List Nat :=
  book.indicesOf Entry.isActive

def findByAccount (account : AccountId) : List Nat :=
  book.indicesOf fun b => account != 0 && b.account == account

def findByAddress (a : Address) : List Nat :=
  book.indicesOf fun b => b.address.isKnown && b.address.sameNetwork a b.networkBits

end Book

end RemoteConsole.Ban
