import RemoteConsole.Store.Failure
import RemoteConsole.Store.Value

namespace RemoteConsole.Store

def longestText : Nat := 1024 * 1024

def largestTable : Nat := 64 * 1024

/-- The bytes of a file from `position` on. -/
structure Cursor where
  position : Nat
  rest : Bytes
  deriving Inhabited

abbrev ReadResult (α : Type) := Except Failure α × Cursor

def ReadResult.andThen {α β : Type} (r : ReadResult α) (f : α → Cursor → ReadResult β) :
    ReadResult β :=
  match r with
  | (.ok a, c) => f a c
  | (.error e, c) => (.error e, c)

namespace Cursor

variable (c : Cursor)

def take (n : Nat) : ReadResult Bytes :=
  let head := c.rest.take n
  if head.length < n then (.error (.truncated c.position), c)
  else (.ok head, ⟨c.position + n, c.rest.drop n⟩)

def number (width : Nat) : ReadResult Nat :=
  ReadResult.andThen (c.take width) fun bytes c => (.ok (numberOf bytes), c)

def count (width most : Nat) : ReadResult Nat :=
  ReadResult.andThen (c.number width) fun n c' =>
    if most < n then (.error (.corrupt c.position), c') else (.ok n, c')

def text : ReadResult String :=
  ReadResult.andThen (c.count 4 longestText) fun n c =>
    ReadResult.andThen (c.take n) fun bytes c => (.ok (Text.Utf8.decode bytes), c)

def pairs (d : Dictionary) : (n : Nat) → (c : Cursor) → ReadResult Dictionary
  | 0, c => (.ok d, c)
  | n + 1, c =>
    ReadResult.andThen c.text fun key c =>
      ReadResult.andThen c.text fun value c => pairs (d.insert key value) n c

def table : ReadResult Dictionary :=
  ReadResult.andThen (c.count 8 largestTable) fun n c => pairs .empty n c

def value (kind : FieldKind) : ReadResult Value :=
  match kind with
  | .text => ReadResult.andThen c.text fun s c => (.ok (.text s), c)
  | .table => ReadResult.andThen c.table fun d c => (.ok (.table d), c)
  | kind =>
    ReadResult.andThen (c.number (kind.width?.getD 0)) fun n c => (.ok (.ofNumber kind n), c)

end Cursor

/-- Reads the fields of a record in the order of its schema. A read that fails may have taken bytes
already, and its field counts as visited. -/
structure Reader where
  schema : Schema
  version : UInt8
  cursor : Cursor
  visited : Nat := 0
  deriving Inhabited

namespace Reader

variable (r : Reader)

/-- Reads the next field, which has to be the named one of this kind. -/
def read (kind : FieldKind) (name : String) : Except Failure Value × Reader :=
  match r.schema.fields[r.visited]? with
  | none => (.error (.schema (.extra r.schema.name name)), r)
  | some field =>
    if field.name ≠ name ∨ field.kind ≠ kind then
      (.error (.schema (.read r.schema.name name kind field)), r)
    else if r.version < field.since then (.ok field.absent, { r with visited := r.visited + 1 })
    else
      let (value, cursor) := r.cursor.value kind
      (value, { r with cursor, visited := r.visited + 1 })

def readEach : List (FieldKind × String) → Reader → Except Failure (List Value) × Reader
  | [], r => (.ok [], r)
  | (kind, name) :: asked, r =>
    match r.read kind name with
    | (.error e, r) => (.error e, r)
    | (.ok v, r) =>
      match readEach asked r with
      | (.error e, r) => (.error e, r)
      | (.ok vs, r) => (.ok (v :: vs), r)

def readAll (fields : List Field) : Reader → Except Failure (List Value) × Reader :=
  readEach (fields.map Field.signature)

end Reader

end RemoteConsole.Store
