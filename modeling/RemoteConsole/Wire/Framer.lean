namespace RemoteConsole.Wire

abbrev Bytes := List UInt8

def newline : UInt8 := 10

def carriageReturn : UInt8 := 13

def lineLimit : Nat := 64 * 1024

/-- Bytes wait in the buffer until their newline arrives. A buffer that outgrows the limit without a
newline is thrown away, and so is the rest of its line. -/
structure Framer where
  limit : Nat := lineLimit
  buffer : Bytes := []
  discarding : Bool := false
  deriving Inhabited

def stripReturn (line : Bytes) : Bytes :=
  if line.getLast? = some carriageReturn then line.dropLast else line

namespace Framer

variable (f : Framer)

def push (data : Bytes) : Framer :=
  { f with buffer := f.buffer ++ data }

def reset : Framer :=
  { f with discarding := false }

def clear : Framer :=
  { f with buffer := [], discarding := false }

/-- The next line that is not empty, if its newline has arrived. -/
def next (f : Framer) : Option Bytes × Framer :=
  match h : f.buffer.dropWhile (· != newline) with
  | [] =>
    if f.limit < f.buffer.length then (none, { f with buffer := [], discarding := true })
    else (none, f)
  | _ :: rest =>
    have : rest.length < f.buffer.length := by
      have := (List.dropWhile_sublist (l := f.buffer) (· != newline)).length_le
      rw [h, List.length_cons] at this
      omega
    let behind := { f with buffer := rest, discarding := false }
    let line := stripReturn (f.buffer.takeWhile (· != newline))
    if f.discarding || line.isEmpty then next behind
    else (some line, behind)
termination_by f.buffer.length

theorem next_some_length {f f' : Framer} {line : Bytes} (h : f.next = (some line, f')) :
    f'.buffer.length < f.buffer.length := by
  fun_induction next f with
  | case1 => simp at h
  | case2 => simp at h
  | case3 f b rest heq hlt behind line' hskip ih => exact Nat.lt_trans (ih h) hlt
  | case4 f b rest heq hlt behind line' hkeep =>
    obtain ⟨_, rfl⟩ := Prod.mk.inj h
    exact hlt

/-- Every line that has arrived, behind those in `lines`, last first. -/
def drainOnto (lines : List Bytes) (f : Framer) : List Bytes × Framer :=
  match h : f.next with
  | (none, f') => (lines.reverse, f')
  | (some line, f') =>
    have := next_some_length h
    drainOnto (line :: lines) f'
termination_by f.buffer.length

def drain : List Bytes × Framer :=
  f.drainOnto []

end Framer

end RemoteConsole.Wire
