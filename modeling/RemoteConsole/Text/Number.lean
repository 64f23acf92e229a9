import RemoteConsole.Text.Blank

namespace RemoteConsole.Text

def digit? (radix : Nat) (c : Char) : Option Nat :=
  let n := c.toNat
  let value :=
    if 48 ≤ n ∧ n ≤ 57 then n - 48
    else if 97 ≤ n ∧ n ≤ 122 then n - 87
    else if 65 ≤ n ∧ n ≤ 90 then n - 55
    else radix
  if value < radix then some value else none

def natural? (radix : Nat) : List Char → Option Nat
  | [] => none
  | cs => cs.foldlM (fun n c => (digit? radix c).map (radix * n + ·)) 0

def unsigned? (radix bound : Nat) (s : String) : Option Nat :=
  let digits := match s.toList with
    | '+' :: cs => cs
    | cs => cs
  (natural? radix digits).filter (· < bound)

def signed? (bound : Nat) (s : String) : Option Int :=
  match s.toList with
  | '-' :: cs => ((natural? 10 cs).filter (· ≤ bound)).map fun n => -(n : Int)
  | '+' :: cs => ((natural? 10 cs).filter (· < bound)).map fun n => (n : Int)
  | cs => ((natural? 10 cs).filter (· < bound)).map fun n => (n : Int)

def uint16? (s : String) : Option UInt16 :=
  (unsigned? 10 UInt16.size s).map UInt16.ofNat

def uint32? (s : String) : Option UInt32 :=
  (unsigned? 10 UInt32.size s).map UInt32.ofNat

def uint64? (s : String) : Option UInt64 :=
  (unsigned? 10 UInt64.size s).map UInt64.ofNat

def hex64? (s : String) : Option UInt64 :=
  (unsigned? 16 UInt64.size s).map UInt64.ofNat

def int32? (s : String) : Option Int32 :=
  (signed? 0x80000000 s).map Int32.ofInt

def int64? (s : String) : Option Int64 :=
  (signed? 0x8000000000000000 s).map Int64.ofInt

def lenient {α : Type} [OfNat α 0] (read? : String → Option α) (s : String) : α :=
  (read? (trim s)).getD 0

def hexDigit (upper : Bool) (n : Nat) : Char :=
  if n < 10 then Char.ofNat (48 + n) else Char.ofNat ((if upper then 55 else 87) + n)

def hexDigits (upper : Bool) : (width : Nat) → (n : Nat) → List Char
  | 0, _ => []
  | width + 1, n => hexDigits upper width (n / 16) ++ [hexDigit upper (n % 16)]

def hex (upper : Bool) (width n : Nat) : String :=
  .ofList (hexDigits upper width n)

end RemoteConsole.Text
