import RemoteConsole.Store.Reader
import RemoteConsole.Store.Writer

namespace RemoteConsole.Store

class Record (α : Type) where
  schema : Schema
  /-- What a record is read and written by, value by value. -/
  signature : List (FieldKind × String) := schema.fields.map Field.signature
  values : α → List Value
  ofValues? : List Value → Option α

variable {α : Type} [Record α]

def encode (r : α) : Except Failure Bytes :=
  let schema := Record.schema α
  match Writer.putAll { schema } (((Record.signature α).map Prod.snd).zip (Record.values r)) with
  | .error e => .error e
  | .ok w => w.finish

def decode (version : UInt8) (c : Cursor) : Except Failure (α × Cursor) :=
  let schema := Record.schema α
  match Reader.readEach (Record.signature α) { schema, version, cursor := c } with
  | (.error e, _) => .error e
  | (.ok values, r) =>
    match Record.ofValues? values with
    | none => .error (.schema (.unfinished schema.name 0 schema.fields.length))
    | some a => .ok (a, r.cursor)

inductive Stop where
  /-- The last record runs past the end, as an append that was interrupted leaves it. -/
  | torn (offset : Nat)
  | corrupt (offset : Nat) (cause : Failure)
  deriving DecidableEq

/-- The records from a cursor on, each with its offset, up to the first that cannot be read. -/
structure Scan (α : Type) where
  records : List (Nat × α)
  stop : Option Stop

/-- `fuel` bounds the number of records; the number of bytes is enough, since each takes some. -/
def scanFrom (version : UInt8) : (fuel : Nat) → Cursor → Scan α
  | 0, _ => ⟨[], none⟩
  | fuel + 1, c =>
    if c.rest.isEmpty then ⟨[], none⟩
    else
      match decode version c with
      | .error (.truncated _) => ⟨[], some (.torn c.position)⟩
      | .error e => ⟨[], some (.corrupt c.position e)⟩
      | .ok (a, behind) =>
        let scan := scanFrom version fuel behind
        { scan with records := (c.position, a) :: scan.records }

def headerLength : Nat := 1

def scan (version : UInt8) (body : Bytes) : Scan α :=
  scanFrom version body.length ⟨headerLength, body⟩

end RemoteConsole.Store
