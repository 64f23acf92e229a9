import RemoteConsole.Store.Record
import RemoteConsole.Store.Shelf

namespace RemoteConsole.Store

/-- What is kept in mind of a file of records, which is one byte for the version of the layout and
then the records: where each of them begins and where the file ends. -/
structure RecordFile where
  eof : Nat
  offsets : List Nat
  deriving DecidableEq, Inhabited

/-- What opening found. -/
inductive Outcome where
  | created
  | loaded
  | upgraded (version : UInt8)
  | reset (reason : String)
  /-- A record that cannot be read; the file was moved aside and those before it were kept. -/
  | salvaged (reason : String)
  /-- A torn record at the end, which was cut off. -/
  | truncated (length : Nat)
  deriving DecidableEq, Inhabited

structure Opened (α : Type) where
  file : RecordFile
  records : List α
  outcome : Outcome

abbrev OnShelf (α : Type) := Except Failure α × Shelf

namespace RecordFile

variable {α : Type} [Record α]

def encodeAll : List α → Except Failure (List Bytes)
  | [] => .ok []
  | r :: rs =>
    match encode r with
    | .error e => .error e
    | .ok b =>
      match encodeAll rs with
      | .error e => .error e
      | .ok bs => .ok (b :: bs)

def offsetsFrom : (offset : Nat) → List Bytes → List Nat
  | _, [] => []
  | offset, b :: bs => offset :: offsetsFrom (offset + b.length) bs

def writeAll (records : List α) (shelf : Shelf) : OnShelf RecordFile :=
  match encodeAll records with
  | .error e => (.error e, shelf)
  | .ok parts =>
    let content := (Record.schema α).current :: parts.flatten
    match shelf.replace content with
    | .error e => (.error e, shelf)
    | .ok shelf => (.ok ⟨content.length, offsetsFrom headerLength parts⟩, shelf)

def restart (now : UInt64) (records : List α) (outcome : Outcome) (shelf : Shelf) :
    OnShelf (Opened α) :=
  match shelf.archive now with
  | .error e => (.error e, shelf)
  | .ok shelf =>
    match writeAll records shelf with
    | (.error e, shelf) => (.error e, shelf)
    | (.ok file, shelf) => (.ok ⟨file, records, outcome⟩, shelf)

def start (records : List α) (outcome : Outcome) (shelf : Shelf) : OnShelf (Opened α) :=
  match writeAll records shelf with
  | (.error e, shelf) => (.error e, shelf)
  | (.ok file, shelf) => (.ok ⟨file, records, outcome⟩, shelf)

def openBody (now : UInt64) (version : UInt8) (body : Bytes) (shelf : Shelf) : OnShelf (Opened α) :=
  let found : Scan α := scan version body
  let records := found.records.map Prod.snd
  match found.stop with
  | some (.corrupt offset cause) =>
    let reason := "unreadable record at byte " ++ toString offset ++ ": " ++ cause.message
    restart now records (.salvaged reason) shelf
  | stop =>
    if version < (Record.schema α).current then
      match stop with
      | none => start records (.upgraded version) shelf
      | some _ => restart now records (.upgraded version) shelf
    else
      let offsets := found.records.map Prod.fst
      match stop with
      | some (.torn offset) =>
        match shelf.truncate offset with
        | .error e => (.error e, shelf)
        | .ok shelf => (.ok ⟨⟨offset, offsets⟩, records, .truncated offset⟩, shelf)
      | _ => (.ok ⟨⟨headerLength + body.length, offsets⟩, records, .loaded⟩, shelf)

/-- Opens the file on a shelf, or creates it. What cannot be kept is moved aside first. -/
def openAt (now : UInt64) (shelf : Shelf) : OnShelf (Opened α) :=
  match shelf.read with
  | .error e => (.error e, shelf)
  | .ok [] => start [] .created shelf
  | .ok (version :: body) =>
    let schema := Record.schema α
    if schema.supports version then openBody now version body shelf
    else
      let reason := (Failure.unsupported version schema.oldest schema.current).message
      restart now [] (.reset reason) shelf

def append (r : α) (file : RecordFile) (shelf : Shelf) : OnShelf (Nat × RecordFile) :=
  match encode r with
  | .error e => (.error e, shelf)
  | .ok bytes =>
    match shelf.write file.eof bytes with
    | .error e => (.error e, shelf)
    | .ok shelf => (.ok (file.eof, ⟨file.eof + bytes.length, file.offsets ++ [file.eof]⟩), shelf)

def patch (offset : Nat) (bytes : Bytes) (file : RecordFile) (shelf : Shelf) : OnShelf Unit :=
  if offset < headerLength ∨ file.eof < offset + bytes.length then
    (.error (.outOfRange offset), shelf)
  else
    match shelf.write offset bytes with
    | .error e => (.error e, shelf)
    | .ok shelf => (.ok (), shelf)

def offsetOf? (file : RecordFile) (index : Nat) : Option Nat :=
  file.offsets[index]?

end RecordFile

end RemoteConsole.Store
