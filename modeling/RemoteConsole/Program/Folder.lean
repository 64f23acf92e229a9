import RemoteConsole.Program.Disk
import RemoteConsole.Text.Pieces

namespace RemoteConsole.Program

open Store (Bytes Shelf)

/-- The names that lead to a file or folder, the outermost first. It starts from the folder the
program runs in, unless its first name is `/`; any `..` stand in front. -/
abbrev Trail := List String

structure Folder where
  /-- Folders that are there whether or not they hold a file. -/
  folders : List Trail := []
  files : List (Trail × Bytes) := []

namespace Folder

def nameLimit : Nat :=
  255

def pathLimit : Nat :=
  4096

def up (trail : Trail) : Trail :=
  if trail = ["/"] then trail
  else if trail.all (· == "..") then trail ++ [".."]
  else trail.dropLast

variable (f : Folder)

def isFolder (trail : Trail) : Bool :=
  trail == ["/"] || trail.all (· == "..") || f.folders.contains trail ||
    f.files.any fun (file, _) => trail.isPrefixOf file && trail != file

def enter (trail : Trail) (name : String) : Option Trail :=
  if !f.isFolder trail || nameLimit < name.utf8ByteSize then none
  else
    match name with
    | "" | "." => some trail
    | ".." => some (up trail)
    | name => some (trail ++ [name])

def find? (path : String) : Option Trail :=
  let names := Text.pieces '/' path
  if path.contains '\x00' || pathLimit ≤ path.utf8ByteSize then none
  else names.foldlM f.enter (if 1 < names.length && names.head? == some "" then ["/"] else [])

def load (path : String) : Shelf :=
  match f.find? path with
  | none => { locked := true }
  | some trail =>
    if f.isFolder trail then { node := .directory }
    else
      match f.files.lookup trail with
      | some content => { node := .file content }
      | none => {}

def remove (trail : Trail) : Folder :=
  { f with files := f.files.filter (·.1 != trail) }

def put (trail : Trail) (content : Bytes) : Folder :=
  { f with files := (trail, content) :: (f.remove trail).files }

/-- The folder with the shelf's content at a path and its backups beside it, if all of these names
can be given to files. -/
def save? (path : String) (shelf : Shelf) : Option Folder := do
  let trail ← f.find? path
  let backups ← shelf.backups.mapM fun (time, content) => do
    return (← f.find? (backupPath path time), content)
  let f := backups.foldl (fun f (trail, content) => f.put trail content) f
  match shelf.node with
  | .file content => if f.isFolder trail then none else some (f.put trail content)
  | .missing => some (f.remove trail)
  | .directory => some f

def disk : Disk (StateM Folder) where
  load path := return (← get).load path
  save path shelf := do
    match (← get).save? path shelf with
    | none => return false
    | some f =>
      set f
      return true

end Folder

end RemoteConsole.Program
