import RemoteConsole.Dictionary
import RemoteConsole.Store.Schema
import RemoteConsole.Text.Utf8

namespace RemoteConsole.Store

inductive Value where
  | byte (n : UInt8)
  | word16 (n : UInt16)
  | word32 (n : UInt32)
  | word64 (n : UInt64)
  | text (s : String)
  | table (d : Dictionary)
  deriving DecidableEq, Inhabited

def numberBytes : (width : Nat) → (n : Nat) → Bytes
  | 0, _ => []
  | width + 1, n => .ofNat (n % 256) :: numberBytes width (n / 256)

def numberOf (bytes : Bytes) : Nat :=
  bytes.foldr (fun b n => b.toNat + 256 * n) 0

theorem numberBytes_length (width n : Nat) : (numberBytes width n).length = width := by
  induction width generalizing n with
  | zero => rfl
  | succ width ih => simp [numberBytes, ih]

theorem numberOf_numberBytes (width n : Nat) :
    numberOf (numberBytes width n) = n % Nat.pow 256 width := by
  induction width generalizing n with
  | zero => exact (Nat.mod_one n).symm
  | succ width ih =>
    have h : numberOf (numberBytes (width + 1) n) =
        n % 256 + 256 * numberOf (numberBytes width (n / 256)) := by
      simp [numberBytes, numberOf]
    rw [h, ih, show Nat.pow 256 (width + 1) = 256 * Nat.pow 256 width from Nat.mul_comm _ _,
      Nat.mod_mul]

def textBytes (s : String) : Bytes :=
  let bytes := Text.Utf8.encode s
  numberBytes 4 bytes.length ++ bytes

def pairBytes (p : Pair) : Bytes :=
  textBytes p.1 ++ textBytes p.2

namespace Value

def kind : Value → FieldKind
  | byte _ => .byte
  | word16 _ => .word16
  | word32 _ => .word32
  | word64 _ => .word64
  | text _ => .text
  | table _ => .table

/-- Numbers stand lowest byte first; a text stands behind its length, a table behind the number of
its pairs. -/
def bytes : Value → Bytes
  | byte n => numberBytes 1 n.toNat
  | word16 n => numberBytes 2 n.toNat
  | word32 n => numberBytes 4 n.toNat
  | word64 n => numberBytes 8 n.toNat
  | text s => textBytes s
  | table d => numberBytes 8 d.size ++ d.pairs.flatMap pairBytes

def ofNumber (kind : FieldKind) (n : Nat) : Value :=
  match kind with
  | .byte => byte (.ofNat n)
  | .word16 => word16 (.ofNat n)
  | .word32 => word32 (.ofNat n)
  | .word64 => word64 (.ofNat n)
  | .text => text ""
  | .table => table .empty

end Value

def Field.absent (f : Field) : Value :=
  .ofNumber f.kind f.fallback.toNat

end RemoteConsole.Store
