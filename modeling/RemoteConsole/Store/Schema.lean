namespace RemoteConsole.Store

abbrev Bytes := List UInt8

inductive FieldKind where
  | byte
  | word16
  | word32
  | word64
  | text
  | table
  deriving DecidableEq, Inhabited

namespace FieldKind

def label : FieldKind → String
  | byte => "U8"
  | word16 => "U16"
  | word32 => "U32"
  | word64 => "U64"
  | text => "Str"
  | table => "Table"

def width? : FieldKind → Option Nat
  | byte => some 1
  | word16 => some 2
  | word32 => some 4
  | word64 => some 8
  | text | table => none

end FieldKind

/-- A field is in a file if the file's version is not older than `since`. -/
structure Field where
  name : String
  kind : FieldKind
  since : UInt8 := 0
  /-- What a number reads as in files older than the field. -/
  fallback : UInt64 := 0
  deriving DecidableEq, Inhabited

def Field.signature (f : Field) : FieldKind × String :=
  (f.kind, f.name)

structure Schema where
  name : String
  current : UInt8
  oldest : UInt8
  fields : List Field
  deriving Inhabited

namespace Schema

variable (s : Schema)

def supports (version : UInt8) : Bool :=
  s.oldest ≤ version && version ≤ s.current

def hasField (name : String) (version : UInt8) : Bool :=
  ((s.fields.find? (·.name == name)).map fun f => decide (f.since ≤ version)).getD false

def fixedWidth? (version : UInt8) (fields : List Field) : Option Nat :=
  (fields.filter (·.since ≤ version)).foldlM (fun n f => f.kind.width?.map (n + ·)) 0

/-- Where a field begins in every record of a version. There is no such place for a field that the
version lacks or that stands behind one without a fixed width. -/
def fixedOffset? (name : String) (version : UInt8) : Option Nat := do
  let index ← s.fields.findIdx? (·.name == name)
  let field ← s.fields[index]?
  if version < field.since then none
  else fixedWidth? version (s.fields.take index)

end Schema

end RemoteConsole.Store
