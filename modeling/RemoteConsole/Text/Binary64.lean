import RemoteConsole.Text.Number

namespace RemoteConsole.Text

structure Binary64 where
  bits : UInt64
  deriving DecidableEq, Inhabited

def roundHalfEven (num den : Nat) : Nat :=
  let q := num / den
  let r := num % den
  if den < 2 * r ∨ (2 * r = den ∧ q % 2 = 1) then q + 1 else q

namespace Binary64

def hidden : Nat :=
  0x10000000000000

def signBit : Nat :=
  0x8000000000000000

def zero : Binary64 :=
  ⟨0⟩

def infinity : Binary64 :=
  ⟨0x7FF0000000000000⟩

def nan : Binary64 :=
  ⟨0x7FF8000000000000⟩

def isFinite (x : Binary64) : Bool :=
  x.bits.toNat >>> 52 % 2048 != 2047

def negate (x : Binary64) : Binary64 :=
  ⟨x.bits ^^^ 0x8000000000000000⟩

def scaled (num den : Nat) (e : Int) : Nat × Nat :=
  (num <<< e.toNat, den <<< (-e).toNat)

def magnitude (num den : Nat) : Int :=
  let k := (num.log2 : Int) - den.log2
  let (n, d) := scaled num den (-k)
  if n < d then k - 1 else k

/-- The double nearest to `num / den`. The significand gets 53 digits, or fewer where the exponent
has reached its least value; one that rounds up to 54 digits carries into the exponent. -/
def ofRatio (num den : Nat) : Binary64 :=
  if num = 0 ∨ den = 0 then zero
  else
    let shift := min (52 - magnitude num den) 1074
    let (n, d) := scaled num den shift
    let bits := (1074 - shift) * hidden + roundHalfEven n d
    if bits < 0x7FF0000000000000 then ⟨.ofNat bits.toNat⟩ else infinity

def toRatio (x : Binary64) : Nat × Nat :=
  let n := x.bits.toNat % signBit
  let exponent : Nat := n / hidden
  let fraction : Nat := n % hidden
  if exponent = 0 then scaled fraction 1 (-1074)
  else scaled (fraction + hidden) 1 ((exponent : Int) - 1075)

def fixed (places : Nat) (x : Binary64) : String :=
  let (n, d) := x.toRatio
  let units := roundHalfEven (n * Nat.pow 10 places) d
  let tail := toString (units % Nat.pow 10 places)
  (if x.bits.toNat < signBit then "" else "-") ++ toString (units / Nat.pow 10 places) ++ "." ++
    .ofList (List.replicate (places - tail.length) '0') ++ tail

/-- `digits * 10 ^ exponent`. Beyond the range of doubles the power is not computed. -/
def ofDecimal (digits : Nat) (exponent : Int) : Binary64 :=
  let size : Int := (digits.log2 / 3 + 1 : Nat)
  if digits = 0 ∨ exponent + size < -400 then zero
  else if 400 < exponent then infinity
  else ofRatio (digits * Nat.pow 10 exponent.toNat) (Nat.pow 10 (-exponent).toNat)

def spanDigits (cs : List Char) : Nat × Nat × List Char :=
  let digits := cs.takeWhile Char.isDigit
  ((natural? 10 digits).getD 0, digits.length, cs.dropWhile Char.isDigit)

/-- Once the digits of an exponent have reached this, those behind them do not count. -/
def exponentLimit : Nat :=
  0x10000

def exponentSize? : List Char → Option Nat
  | [] => none
  | cs => cs.foldlM (fun n c => (digit? 10 c).map fun d =>
      if n < exponentLimit then 10 * n + d else n) 0

def exponent? : List Char → Option Int
  | [] => some 0
  | c :: cs =>
    if c = 'e' ∨ c = 'E' then
      match cs with
      | '-' :: ds => (exponentSize? ds).map fun n => -(n : Int)
      | '+' :: ds => (exponentSize? ds).map fun n => (n : Int)
      | ds => (exponentSize? ds).map fun n => (n : Int)
    else none

def unsigned? (cs : List Char) : Option Binary64 :=
  let word := String.ofList (cs.map Char.toLower)
  if word = "inf" ∨ word = "infinity" then some infinity
  else if word = "nan" then some nan
  else
    let (whole, wholeCount, rest) := spanDigits cs
    let (part, partCount, rest) := match rest with
      | '.' :: rest => spanDigits rest
      | rest => (0, 0, rest)
    if wholeCount + partCount = 0 then none
    else (exponent? rest).map fun e =>
      ofDecimal (whole * Nat.pow 10 partCount + part) (e - partCount)

/-- Reads a decimal with an optional point and exponent, or the words for infinity and
not-a-number in any case, behind an optional sign. -/
def read? (s : String) : Option Binary64 :=
  match s.toList with
  | '-' :: cs => (unsigned? cs).map negate
  | '+' :: cs => unsigned? cs
  | cs => unsigned? cs

end Binary64

instance : OfNat Binary64 0 := ⟨.zero⟩

end RemoteConsole.Text
