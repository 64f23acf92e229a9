namespace RemoteConsole.Text.Utf8

def encodeChar (c : Char) : List UInt8 :=
  let n := c.toNat
  if n < 0x80 then [.ofNat n]
  else if n < 0x800 then [.ofNat (0xC0 + n / 0x40), .ofNat (0x80 + n % 0x40)]
  else if n < 0x10000 then
    [.ofNat (0xE0 + n / 0x1000), .ofNat (0x80 + n / 0x40 % 0x40), .ofNat (0x80 + n % 0x40)]
  else
    [.ofNat (0xF0 + n / 0x40000), .ofNat (0x80 + n / 0x1000 % 0x40),
      .ofNat (0x80 + n / 0x40 % 0x40), .ofNat (0x80 + n % 0x40)]

def encode (s : String) : List UInt8 :=
  s.toList.flatMap encodeChar

/-- The characters that some bytes spell and those behind them; none if the bytes end within a
character. -/
def splitChars? : (cs : List Char) → (bytes : Nat) → Option (List Char × List Char)
  | cs, 0 => some ([], cs)
  | [], _ + 1 => none
  | c :: cs, n + 1 =>
    let width := (encodeChar c).length
    if n + 1 < width then none
    else (splitChars? cs (n + 1 - width)).map fun (before, behind) => (c :: before, behind)

/-- Cuts a text at a byte, which has to begin a character or be the end. -/
def splitAt? (bytes : Nat) (s : String) : Option (String × String) :=
  (splitChars? s.toList bytes).map fun (before, behind) => (.ofList before, .ofList behind)

def replacement : Char := '\uFFFD'

/-- A character whose first bytes have been read: how many more it needs, the bounds of the next
one (narrower after E0, ED, F0 and F4, which rules out long forms and surrogates), and its bits. -/
structure Underway where
  owed : Nat
  low : Nat
  high : Nat
  value : Nat

/-- The text read so far, last character first, and the character under way. -/
structure Decoder where
  text : List Char
  pending : Option Underway

def Decoder.start : Decoder :=
  ⟨[], none⟩

def Decoder.push (d : Decoder) (c : Char) : Decoder :=
  ⟨c :: d.text, none⟩

def Decoder.lead (d : Decoder) (b : Nat) : Decoder :=
  if b < 0x80 then d.push (Char.ofNat b)
  else if b < 0xC2 then d.push replacement
  else if b < 0xE0 then { d with pending := some ⟨1, 0x80, 0xBF, b - 0xC0⟩ }
  else if b < 0xF0 then
    { d with pending := some ⟨2, if b = 0xE0 then 0xA0 else 0x80,
        if b = 0xED then 0x9F else 0xBF, b - 0xE0⟩ }
  else if b < 0xF5 then
    { d with pending := some ⟨3, if b = 0xF0 then 0x90 else 0x80,
        if b = 0xF4 then 0x8F else 0xBF, b - 0xF0⟩ }
  else d.push replacement

def Decoder.feed (d : Decoder) (byte : UInt8) : Decoder :=
  let b := byte.toNat
  match d.pending with
  | none => d.lead b
  | some p =>
    if p.low ≤ b ∧ b ≤ p.high then
      let value := p.value * 0x40 + (b - 0x80)
      if p.owed ≤ 1 then d.push (Char.ofNat value)
      else { d with pending := some ⟨p.owed - 1, 0x80, 0xBF, value⟩ }
    else (d.push replacement).lead b

def Decoder.finish (d : Decoder) : List Char :=
  match d.pending with
  | none => d.text.reverse
  | some _ => (replacement :: d.text).reverse

/-- Reads any bytes: where they are no UTF-8, each longest start of a character becomes one
replacement character, and reading goes on with the byte that did not fit. -/
def decode (bytes : List UInt8) : String :=
  .ofList (bytes.foldl Decoder.feed .start).finish

def decode? (bytes : List UInt8) : Option String :=
  let s := decode bytes
  if encode s = bytes then some s else none

end RemoteConsole.Text.Utf8
