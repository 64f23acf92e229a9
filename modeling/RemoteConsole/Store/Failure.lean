import RemoteConsole.Store.Schema

namespace RemoteConsole.Store

inductive Mismatch where
  | extra (schema name : String)
  | read (schema name : String) (kind : FieldKind) (expected : Field)
  | written (schema name : String) (expected : Field)
  | unfinished (schema : String) (done all : Nat)
  deriving DecidableEq, Inhabited

def Mismatch.message : Mismatch → String
  | .extra schema name => schema ++ ": extra field '" ++ name ++ "'"
  | .read schema name kind expected =>
    schema ++ ": read '" ++ name ++ "' as " ++ kind.label ++ " where '" ++ expected.name ++ "' (" ++
      expected.kind.label ++ ") belongs"
  | .written schema name expected =>
    schema ++ ": wrote '" ++ name ++ "' where '" ++ expected.name ++ "' belongs"
  | .unfinished schema done all =>
    schema ++ ": record ended after " ++ toString done ++ " of " ++ toString all ++ " fields"

inductive Failure where
  | io
  /-- The bytes end inside a value; the first missing one would stand here. -/
  | truncated (position : Nat)
  /-- A length or count is beyond what a record may hold. -/
  | corrupt (position : Nat)
  | unsupported (found oldest current : UInt8)
  | schema (mismatch : Mismatch)
  | outOfRange (index : Nat)
  deriving DecidableEq, Inhabited

def Failure.message : Failure → String
  | .io => "IO error"
  | .truncated position => "Record truncated at byte " ++ toString position
  | .corrupt position => "Corrupt length field at byte " ++ toString position
  | .unsupported found oldest current =>
    "Unsupported file version " ++ toString found.toNat ++ " (supported " ++
      toString oldest.toNat ++ "..=" ++ toString current.toNat ++ ")"
  | .schema mismatch => "Schema mismatch: " ++ mismatch.message
  | .outOfRange index => "No record at index " ++ toString index

end RemoteConsole.Store
