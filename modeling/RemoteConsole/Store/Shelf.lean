import RemoteConsole.Store.Failure

namespace RemoteConsole.Store

inductive Node where
  | missing
  | directory
  | file (content : Bytes)
  deriving DecidableEq, Inhabited

/-- The place of a store's file, which others may change: the file may go away, a directory may take
its place, or all of it may be locked against changes. -/
structure Shelf where
  node : Node := .missing
  backups : List (UInt64 × Bytes) := []
  locked : Bool := false
  deriving DecidableEq, Inhabited

namespace Shelf

variable (s : Shelf)

def content? : Option Bytes :=
  match s.node with
  | .file content => some content
  | _ => none

def read : Except Failure Bytes :=
  match s.node with
  | .missing => .ok []
  | .directory => .error .io
  | .file content => .ok content

def replace (content : Bytes) : Except Failure Shelf :=
  if s.locked ∨ s.node = .directory then .error .io
  else .ok { s with node := .file content }

def change (f : Bytes → Bytes) : Except Failure Shelf :=
  match s.locked, s.node with
  | false, .file content => .ok { s with node := .file (f content) }
  | _, _ => .error .io

def overlay (offset : Nat) (bytes content : Bytes) : Bytes :=
  if bytes.isEmpty then content
  else
    content.take offset ++ List.replicate (offset - content.length) 0 ++ bytes ++
      content.drop (offset + bytes.length)

def write (offset : Nat) (bytes : Bytes) : Except Failure Shelf :=
  s.change (overlay offset bytes)

def truncate (length : Nat) : Except Failure Shelf :=
  s.change (·.take length)

/-- Moves the file aside. A backup of the same second gives way. -/
def archive (now : UInt64) : Except Failure Shelf :=
  match s.locked, s.node with
  | false, .file content =>
    .ok { s with
      node := .missing
      backups := s.backups.filter (·.1 != now) ++ [(now, content)] }
  | _, _ => .error .io

end Shelf

end RemoteConsole.Store
