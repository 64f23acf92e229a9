import RemoteConsole.Store.Shelf

namespace RemoteConsole.Program

open Store (Shelf)

structure Disk (m : Type → Type) where
  load : String → m Shelf
  save : String → Shelf → m Bool

def backupPath (path : String) (time : UInt64) : String :=
  path ++ "." ++ toString time.toNat ++ ".bak"

end RemoteConsole.Program
