import RemoteConsole.Store.Failure
import RemoteConsole.Store.Value

namespace RemoteConsole.Store

structure Writer where
  schema : Schema
  bytes : Bytes := []
  visited : Nat := 0
  deriving Inhabited

namespace Writer

def advance (w : Writer) (kind : FieldKind) (name : String) : Except Failure Unit × Writer :=
  match w.schema.fields[w.visited]? with
  | none => (.error (.schema (.extra w.schema.name name)), w)
  | some field =>
    if field.name ≠ name ∨ field.kind ≠ kind then
      (.error (.schema (.written w.schema.name name field)), w)
    else (.ok (), { w with visited := w.visited + 1 })

/-- Writes the next field, and leaves the writer behind, also where the field is refused. -/
def write (w : Writer) (name : String) (value : Value) : Except Failure Unit × Writer :=
  match w.advance value.kind name with
  | (.error e, w) => (.error e, w)
  | (.ok (), w) => (.ok (), { w with bytes := w.bytes ++ value.bytes })

def put (w : Writer) (name : String) (value : Value) : Except Failure Writer :=
  match w.write name value with
  | (.error e, _) => .error e
  | (.ok (), w) => .ok w

def attempt (w : Writer) (calls : List (String × Value)) : Writer :=
  calls.foldl (fun w (name, value) => (w.write name value).2) w

def finish (w : Writer) : Except Failure Bytes :=
  if w.visited ≠ w.schema.fields.length then
    .error (.schema (.unfinished w.schema.name w.visited w.schema.fields.length))
  else .ok w.bytes

def putAll (w : Writer) : List (String × Value) → Except Failure Writer
  | [] => .ok w
  | (name, value) :: calls =>
    match w.put name value with
    | .error e => .error e
    | .ok w => w.putAll calls

end Writer

end RemoteConsole.Store
