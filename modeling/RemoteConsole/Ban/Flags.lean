import RemoteConsole.Text.Pieces

namespace RemoteConsole.Ban

structure Flags where
  bits : UInt16
  deriving DecidableEq, Inhabited

namespace Flags

def none : Flags := ⟨0⟩

def game : Flags := ⟨0x0001⟩

def chat : Flags := ⟨0x0002⟩

def bot : Flags := ⟨0x0004⟩

def vote : Flags := ⟨0x0008⟩

def mining : Flags := ⟨0x0010⟩

def ladder : Flags := ⟨0x0020⟩

def alert : Flags := ⟨0x0040⟩

def active : Flags := ⟨0x8000⟩

def allKinds : Flags := ⟨0x007F⟩

def contains (a b : Flags) : Bool :=
  a.bits &&& b.bits == b.bits

def intersects (a b : Flags) : Bool :=
  a.bits &&& b.bits != 0

def union (a b : Flags) : Flags :=
  ⟨a.bits ||| b.bits⟩

def remove (a b : Flags) : Flags :=
  ⟨a.bits &&& ~~~b.bits⟩

def kinds (a : Flags) : Flags :=
  ⟨a.bits &&& allKinds.bits⟩

def isEmpty (a : Flags) : Bool :=
  a.bits == 0

def names : List (Flags × String) :=
  [(game, "game"), (chat, "chat"), (bot, "bot"), (vote, "vote"), (mining, "mining"),
    (ladder, "ladder"), (alert, "alert")]

def toString (a : Flags) : String :=
  match names.filter fun (flag, _) => a.contains flag with
  | [] => "none"
  | held => Text.join "|" (held.map Prod.snd)

end Flags

end RemoteConsole.Ban
