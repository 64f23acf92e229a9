import Mathlib.Tactic.Ring
import Mathlib.Tactic.SplitIfs
import RemoteConsole.Text.Number

namespace RemoteConsole.Text

def IsDecimal (digits : List Char) : Prop :=
  digits ≠ [] ∧ ∀ c ∈ digits, c.isDigit = true

/-- A whole number in decimal, and its value: perhaps a minus, then at least one digit. -/
inductive Numeral : List Char → Int → Prop where
  | natural {digits : List Char} (h : IsDecimal digits) :
      Numeral digits (Nat.ofDigitChars 10 digits 0)
  | negative {digits : List Char} (h : IsDecimal digits) :
      Numeral ('-' :: digits) (-(Nat.ofDigitChars 10 digits 0 : Int))

theorem isDigit_iff (c : Char) : c.isDigit = true ↔ 48 ≤ c.toNat ∧ c.toNat ≤ 57 := by
  simp only [Char.isDigit, ge_iff_le, UInt32.le_iff_toNat_le, Bool.and_eq_true, decide_eq_true_eq]
  exact Iff.rfl

section Decimal

variable {cs : List Char}

theorem digit?_ten (c : Char) :
    digit? 10 c = if c.isDigit then some (c.toNat - '0'.toNat) else none := by
  have hzero : '0'.toNat = 48 := rfl
  simp only [digit?, isDigit_iff, hzero]
  by_cases hc : 48 ≤ c.toNat ∧ c.toNat ≤ 57
  · rw [if_pos hc, if_pos hc, if_pos (by omega)]
  · rw [if_neg hc, if_neg hc, if_neg (by split_ifs <;> omega)]

theorem foldlM_digit?_ten {start n : Nat} :
    cs.foldlM (fun n c => (digit? 10 c).map (10 * n + ·)) start = some n ↔
      (∀ c ∈ cs, c.isDigit = true) ∧ n = Nat.ofDigitChars 10 cs start := by
  induction cs generalizing start with
  | nil =>
      rw [List.foldlM_nil, Nat.ofDigitChars_nil]
      simpa using eq_comm
  | cons c cs ih =>
      rw [List.foldlM_cons, digit?_ten, Nat.ofDigitChars_cons]
      by_cases hc : c.isDigit = true
      · simp [hc, ih]
      · simp [hc]

theorem natural?_ten_eq_some_iff {n : Nat} :
    natural? 10 cs = some n ↔ IsDecimal cs ∧ n = Nat.ofDigitChars 10 cs 0 := by
  cases cs with
  | nil => simp [natural?, IsDecimal]
  | cons c cs =>
      rw [IsDecimal, and_iff_right (List.cons_ne_nil c cs)]
      exact foldlM_digit?_ten

theorem map_natural?_eq_some_iff {fits : Nat → Bool} {f : Int → Int} {z : Int} :
    (Option.map f do
        let n ← (natural? 10 cs).filter fits
        pure (n : Int)) = some z ↔
      IsDecimal cs ∧ fits (Nat.ofDigitChars 10 cs 0) = true ∧
        f (Nat.ofDigitChars 10 cs 0) = z := by
  simp only [Option.map_eq_some_iff, Option.bind_eq_bind, Option.bind_eq_some_iff,
    Option.pure_def, Option.some.injEq, Option.filter_eq_some_iff, natural?_ten_eq_some_iff]
  constructor
  · rintro ⟨_, ⟨n, ⟨⟨hcs, rfl⟩, hfits⟩, rfl⟩, hz⟩
    exact ⟨hcs, hfits, hz⟩
  · rintro ⟨hcs, hfits, hz⟩
    exact ⟨_, ⟨_, ⟨⟨hcs, rfl⟩, hfits⟩, rfl⟩, hz⟩

theorem IsDecimal.head_ne_minus (h : IsDecimal cs) {rest : List Char} : cs ≠ '-' :: rest := by
  rintro rfl
  exact absurd (h.2 '-' List.mem_cons_self) (by decide)

end Decimal

theorem signed?_eq_some_iff {bound : Nat} (hbound : 0 < bound) {s : String} {z : Int}
    (hplus : s.toList.head? ≠ some '+') :
    signed? bound s = some z ↔ Numeral s.toList z ∧ -(bound : Int) ≤ z ∧ z < bound := by
  unfold signed?
  generalize s.toList = cs at hplus
  split
  · rw [map_natural?_eq_some_iff, decide_eq_true_eq]
    constructor
    · rintro ⟨hdigits, hfits, rfl⟩
      exact ⟨.negative hdigits, by omega⟩
    · rintro ⟨hnumeral, hlow, hhigh⟩
      cases hnumeral with
      | natural h => exact absurd rfl h.head_ne_minus
      | negative h => exact ⟨h, by omega, rfl⟩
  · exact absurd rfl hplus
  · rename_i hminus _
    rw [map_natural?_eq_some_iff, decide_eq_true_eq]
    constructor
    · rintro ⟨hdigits, hfits, rfl⟩
      exact ⟨.natural hdigits, by omega⟩
    · rintro ⟨hnumeral, hlow, hhigh⟩
      cases hnumeral with
      | natural h => exact ⟨h, by omega, rfl⟩
      | negative h => exact absurd rfl (hminus _)

theorem int32?_eq_some_iff {s : String} {v : Int32} (hplus : s.toList.head? ≠ some '+') :
    int32? s = some v ↔ Numeral s.toList v.toInt := by
  have hbound : 0 < 0x80000000 := by decide
  simp only [int32?, Option.map_eq_some_iff, signed?_eq_some_iff hbound hplus]
  constructor
  · rintro ⟨z, ⟨hnumeral, hlow, hhigh⟩, rfl⟩
    rwa [Int32.toInt_ofInt_of_le hlow hhigh]
  · intro hnumeral
    exact ⟨_, ⟨hnumeral, v.le_toInt, v.toInt_lt⟩, v.ofInt_toInt⟩

namespace Numeral

variable {cs : List Char} {z : Int}

theorem ne_nil (h : Numeral cs z) : cs ≠ [] := by
  cases h with
  | natural h => exact h.1
  | negative h => exact List.cons_ne_nil _ _

theorem not_mem (h : Numeral cs z) {c : Char} (hminus : c ≠ '-') (hdigit : c.isDigit = false) :
    c ∉ cs := by
  intro hc
  have hother : ¬ c.isDigit = true := by simp [hdigit]
  cases h with
  | natural h => exact hother (h.2 c hc)
  | negative h => exact (List.mem_cons.1 hc).elim hminus fun hc => hother (h.2 c hc)

end Numeral

theorem isDecimal_repr (n : Nat) : IsDecimal n.repr.toList := by
  rw [Nat.repr_eq_ofList_toDigits, String.toList_ofList]
  exact ⟨Nat.toDigits_ne_nil, fun c hc => Nat.isDigit_of_mem_toDigits (by decide) (by decide) hc⟩

theorem ofDigitChars_repr (n : Nat) : Nat.ofDigitChars 10 n.repr.toList 0 = n := by
  rw [Nat.repr_eq_ofList_toDigits, String.toList_ofList, Nat.ofDigitChars_ten_toDigits]

theorem numeral_toString (z : Int) : Numeral (toString z).toList z := by
  rw [Int.toString_eq_repr, Int.repr_eq_if]
  split
  · rename_i hz
    have h := Numeral.natural (isDecimal_repr z.toNat)
    rwa [ofDigitChars_repr, Int.toNat_of_nonneg hz] at h
  · rename_i hz
    have h := Numeral.negative (isDecimal_repr (-z).toNat)
    rw [ofDigitChars_repr, Int.toNat_of_nonneg (by omega), Int.neg_neg] at h
    rwa [String.toList_append]

theorem unsigned?_of_natural? {radix bound n : Nat} {cs : List Char}
    (h : natural? radix cs = some n) (hn : n < bound) :
    unsigned? radix bound (.ofList cs) = some n := by
  have hplus : digit? radix '+' = none := by simp [digit?]
  rw [unsigned?, String.toList_ofList]
  split
  · simp [natural?, hplus] at h
  · simp [h, hn]

section Hexadecimal

variable (upper : Bool)

theorem digit?_hexDigit : ∀ upper, ∀ d < 16, digit? 16 (hexDigit upper d) = some d := by
  decide

theorem foldlM_hexDigits (width n start : Nat) :
    (hexDigits upper width n).foldlM (fun n c => (digit? 16 c).map (16 * n + ·)) start =
      some (16 ^ width * start + n % 16 ^ width) := by
  induction width generalizing n with
  | zero => simp [hexDigits, Nat.mod_one]
  | succ width ih =>
      rw [hexDigits, List.foldlM_append, ih]
      simp [digit?_hexDigit upper (n % 16) (Nat.mod_lt n (by decide)), Nat.pow_succ',
        Nat.mod_mul]
      ring

theorem length_hexDigits (width n : Nat) : (hexDigits upper width n).length = width := by
  induction width generalizing n with
  | zero => rfl
  | succ width ih => rw [hexDigits, List.length_append, ih, List.length_singleton]

theorem natural?_hexDigits {width n : Nat} (hwidth : 0 < width) (hn : n < 16 ^ width) :
    natural? 16 (hexDigits upper width n) = some n := by
  have h := foldlM_hexDigits upper width n 0
  rw [Nat.mod_eq_of_lt hn, Nat.mul_zero, Nat.zero_add] at h
  cases hdigits : hexDigits upper width n with
  | nil =>
      have hlength := length_hexDigits upper width n
      rw [hdigits, List.length_nil] at hlength
      omega
  | cons c cs => rwa [hdigits] at h

theorem toNat_hexDigit_bounds : ∀ upper, ∀ d < 16,
    48 ≤ (hexDigit upper d).toNat ∧ (hexDigit upper d).toNat ≤ 102 := by
  decide

theorem toNat_bounds_of_mem_hexDigits {width n : Nat} {c : Char}
    (h : c ∈ hexDigits upper width n) : 48 ≤ c.toNat ∧ c.toNat ≤ 102 := by
  induction width generalizing n with
  | zero => cases h
  | succ width ih =>
      rcases List.mem_append.1 h with h | h
      · exact ih h
      · rw [List.mem_singleton.1 h]
        exact toNat_hexDigit_bounds upper _ (Nat.mod_lt n (by decide))

theorem isBlank_of_mem_hexDigits {width n : Nat} {c : Char} (h : c ∈ hexDigits upper width n) :
    isBlank c = false := by
  have hbounds := toNat_bounds_of_mem_hexDigits upper h
  simp only [isBlank, Bool.or_eq_false_iff, Bool.and_eq_false_iff, decide_eq_false_iff_not,
    beq_eq_false_iff_ne]
  omega

theorem hex64?_hex {n : Nat} (h : n < UInt64.size) :
    hex64? (hex upper 16 n) = some (.ofNat n) := by
  have hread : natural? 16 (hexDigits upper 16 n) = some n :=
    natural?_hexDigits upper (by decide) h
  rw [hex64?, hex, unsigned?_of_natural? hread h, Option.map_some]

end Hexadecimal

end RemoteConsole.Text
