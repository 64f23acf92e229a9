import Mathlib.Tactic.Ring
import RemoteConsole.Proofs.Text.Pieces
import RemoteConsole.Proofs.Text.Utf8

namespace RemoteConsole.Text.Utf8

namespace Underway

variable (p : Underway)

def least : Nat :=
  (p.value * 0x40 + (p.low - 0x80)) * 0x40 ^ (p.owed - 1)

def bound : Nat :=
  (p.value * 0x40 + (p.high - 0x80) + 1) * 0x40 ^ (p.owed - 1)

/-- Whatever continues it, it becomes a character, and one that is not ASCII. -/
structure Sound : Prop where
  owed : 1 ≤ p.owed
  continues : 0x80 ≤ p.low
  wide : 0x80 ≤ p.least
  valid : p.bound ≤ 0xD800 ∨ 0xE000 ≤ p.least ∧ p.bound ≤ 0x110000

variable {p} {b : Nat}

theorem sound_two (hl : 0xC2 ≤ b) (hh : b < 0xE0) : Sound ⟨1, 0x80, 0xBF, b - 0xC0⟩ := by
  constructor <;> simp only [least, bound] <;> omega

theorem sound_three (hl : 0xE0 ≤ b) (hh : b < 0xF0) :
    Sound ⟨2, if b = 0xE0 then 0xA0 else 0x80, if b = 0xED then 0x9F else 0xBF, b - 0xE0⟩ := by
  constructor <;> simp only [least, bound, Nat.reduceSub, Nat.reducePow] <;> grind

theorem sound_four (hl : 0xF0 ≤ b) (hh : b < 0xF5) :
    Sound ⟨3, if b = 0xF0 then 0x90 else 0x80, if b = 0xF4 then 0x8F else 0xBF, b - 0xF0⟩ := by
  constructor <;> simp only [least, bound, Nat.reduceSub, Nat.reducePow] <;> grind

def next (p : Underway) (b : Nat) : Underway :=
  ⟨p.owed - 1, 0x80, 0xBF, p.value * 0x40 + (b - 0x80)⟩

theorem least_le_next (howed : ¬ p.owed ≤ 1) (hl : p.low ≤ b) : p.least ≤ (p.next b).least := by
  obtain ⟨k, hk⟩ : ∃ k, p.owed - 1 = k + 1 := ⟨p.owed - 2, by omega⟩
  have hvalue : p.value * 0x40 + (p.low - 0x80) ≤ p.value * 0x40 + (b - 0x80) := by omega
  calc p.least = (p.value * 0x40 + (p.low - 0x80)) * 0x40 ^ (k + 1) := by rw [least, hk]
    _ ≤ (p.value * 0x40 + (b - 0x80)) * 0x40 ^ (k + 1) := Nat.mul_le_mul_right _ hvalue
    _ = (p.next b).least := by
      simp only [least, next, hk, Nat.pow_succ, Nat.add_sub_cancel]
      ring

theorem next_bound_le (howed : ¬ p.owed ≤ 1) (hh : b ≤ p.high) : (p.next b).bound ≤ p.bound := by
  obtain ⟨k, hk⟩ : ∃ k, p.owed - 1 = k + 1 := ⟨p.owed - 2, by omega⟩
  have hvalue : p.value * 0x40 + (b - 0x80) + 1 ≤ p.value * 0x40 + (p.high - 0x80) + 1 := by omega
  calc (p.next b).bound = (p.value * 0x40 + (b - 0x80) + 1) * 0x40 ^ (k + 1) := by
        simp only [bound, next, hk, Nat.pow_succ, Nat.add_sub_cancel]
        ring
    _ ≤ (p.value * 0x40 + (p.high - 0x80) + 1) * 0x40 ^ (k + 1) := Nat.mul_le_mul_right _ hvalue
    _ = p.bound := by rw [bound, hk]

theorem Sound.next (h : p.Sound) (howed : ¬ p.owed ≤ 1) (hl : p.low ≤ b) (hh : b ≤ p.high) :
    (p.next b).Sound where
  owed := by simp only [Underway.next]; omega
  continues := Nat.le_refl _
  wide := h.wide.trans (least_le_next howed hl)
  valid := h.valid.imp (next_bound_le howed hh).trans fun ⟨hlow, hhigh⟩ =>
    ⟨hlow.trans (least_le_next howed hl), (next_bound_le howed hh).trans hhigh⟩

theorem Sound.toNat_ofNat (h : p.Sound) (howed : p.owed ≤ 1) (hl : p.low ≤ b) (hh : b ≤ p.high) :
    0x80 ≤ (Char.ofNat (p.value * 0x40 + (b - 0x80))).toNat := by
  obtain ⟨owed, low, high, value⟩ := p
  obtain ⟨howeds, hlow, hwide, hvalid⟩ := h
  simp only at howeds hlow howed hl hh
  obtain rfl : owed = 1 := Nat.le_antisymm howed howeds
  simp only [least, bound, Nat.sub_self, Nat.pow_zero, Nat.mul_one] at hwide hvalid
  have hchar : (value * 0x40 + (b - 0x80)).isValidChar := by
    unfold Nat.isValidChar
    omega
  rw [Char.ofNat, dif_pos hchar]
  change 0x80 ≤ value * 0x40 + (b - 0x80)
  omega

end Underway

namespace Decoder

def Sound (d : Decoder) : Prop :=
  ∀ p, d.pending = some p → p.Sound

def behind (before : List Char) (d : Decoder) : Decoder :=
  ⟨d.text ++ before, d.pending⟩

variable {d : Decoder} {text : List Char}

theorem sound_between : Sound ⟨text, none⟩ := by
  intro p h
  cases h

theorem sound_start : start.Sound :=
  sound_between

theorem sound_within {p : Underway} (h : p.Sound) : Sound ⟨text, some p⟩ := by
  intro q hq
  cases hq
  exact h

theorem finish_behind (before : List Char) :
    (d.behind before).finish = before.reverse ++ d.finish := by
  obtain ⟨text, pending⟩ := d
  cases pending <;> simp [behind, finish]

theorem lead_behind (before : List Char) (b : Nat) :
    (d.behind before).lead b = (d.lead b).behind before := by
  simp only [lead, push, behind]
  repeat' split
  all_goals rfl

theorem feed_behind (before : List Char) (byte : UInt8) :
    (d.behind before).feed byte = (d.feed byte).behind before := by
  obtain ⟨text, pending⟩ := d
  cases pending with
  | none => exact lead_behind before byte.toNat
  | some p =>
      simp only [feed, behind]
      split
      · split <;> rfl
      · exact lead_behind (d := push ⟨text, some p⟩ replacement) before byte.toNat

theorem foldl_feed_behind (before : List Char) (bytes : List UInt8) :
    bytes.foldl feed (d.behind before) = (bytes.foldl feed d).behind before := by
  induction bytes generalizing d with
  | nil => rfl
  | cons byte bytes ih => rw [List.foldl_cons, List.foldl_cons, feed_behind, ih]

theorem lead_ascii {b : Nat} (hb : b < 0x80) :
    lead ⟨text, none⟩ b = ⟨Char.ofNat b :: text, none⟩ := by
  rw [lead, if_pos hb]
  rfl

theorem lead_wide (text : List Char) {b : Nat} (hb : 0x80 ≤ b) :
    lead ⟨text, none⟩ b = ⟨replacement :: text, none⟩ ∨
      ∃ p : Underway, p.Sound ∧ lead ⟨text, none⟩ b = ⟨text, some p⟩ := by
  rcases Nat.lt_or_ge b 0xC2 with h1 | h1
  · rw [lead, if_neg (by omega), if_pos h1]
    exact .inl rfl
  rcases Nat.lt_or_ge b 0xE0 with h2 | h2
  · exact .inr ⟨_, Underway.sound_two h1 h2, lead_two h1 h2⟩
  rcases Nat.lt_or_ge b 0xF0 with h3 | h3
  · exact .inr ⟨_, Underway.sound_three h2 h3, lead_three h2 h3⟩
  rcases Nat.lt_or_ge b 0xF5 with h4 | h4
  · exact .inr ⟨_, Underway.sound_four h3 h4, lead_four h3 h4⟩
  · rw [lead, if_neg (by omega), if_neg (by omega), if_neg (by omega), if_neg (by omega),
      if_neg (by omega)]
    exact .inl rfl

theorem feed_ascii (hd : d.Sound) {byte : UInt8} (hbyte : byte.toNat < 0x80) :
    d.feed byte = ⟨Char.ofNat byte.toNat :: d.finish.reverse, none⟩ := by
  obtain ⟨text, pending⟩ := d
  cases pending with
  | none =>
      rw [finish, List.reverse_reverse]
      exact lead_ascii hbyte
  | some p =>
      have hout : ¬ (p.low ≤ byte.toNat ∧ byte.toNat ≤ p.high) := by
        have := (hd p rfl).continues
        omega
      simp only [feed, if_neg hout, finish, List.reverse_reverse]
      exact lead_ascii hbyte

/-- Any other byte adds only characters that are not ASCII, and at least one where none is under way
afterwards. -/
theorem feed_wide (hd : d.Sound) {byte : UInt8} (hbyte : 0x80 ≤ byte.toNat) :
    (d.feed byte).Sound ∧ ∃ new, (d.feed byte).text = new ++ d.text ∧
      (∀ c ∈ new, 0x80 ≤ c.toNat) ∧ ((d.feed byte).pending = none → new ≠ []) := by
  have hreplacement : 0x80 ≤ replacement.toNat := by decide
  obtain ⟨text, pending⟩ := d
  cases pending with
  | none =>
      have hfeed : feed ⟨text, none⟩ byte = lead ⟨text, none⟩ byte.toNat := rfl
      rcases lead_wide text hbyte with h | ⟨p, hp, h⟩
      · rw [hfeed, h]
        exact ⟨sound_between, [replacement], rfl, by simpa using hreplacement, by simp⟩
      · rw [hfeed, h]
        exact ⟨sound_within hp, [], rfl, by simp, by simp⟩
  | some p =>
      have hp := hd p rfl
      by_cases hin : p.low ≤ byte.toNat ∧ byte.toNat ≤ p.high
      · by_cases howed : p.owed ≤ 1
        · have hchar := hp.toNat_ofNat howed hin.1 hin.2
          simp only [feed, if_pos hin, if_pos howed, push]
          exact ⟨sound_between, [_], rfl, by simpa using hchar, by simp⟩
        · simp only [feed, if_pos hin, if_neg howed]
          exact ⟨sound_within (hp.next howed hin.1 hin.2), [], rfl, by simp, by simp⟩
      · have hfeed : feed ⟨text, some p⟩ byte = lead ⟨replacement :: text, none⟩ byte.toNat := by
          simp only [feed, if_neg hin]
          rfl
        rcases lead_wide (replacement :: text) hbyte with h | ⟨q, hq, h⟩
        · rw [hfeed, h]
          exact ⟨sound_between, [replacement, replacement], rfl, by simpa using hreplacement,
            by simp⟩
        · rw [hfeed, h]
          exact ⟨sound_within hq, [replacement], rfl, by simpa using hreplacement, by simp⟩

theorem sound_feed (hd : d.Sound) (byte : UInt8) : (d.feed byte).Sound := by
  rcases Nat.lt_or_ge byte.toNat 0x80 with hbyte | hbyte
  · rw [feed_ascii hd hbyte]
    exact sound_between
  · exact (feed_wide hd hbyte).1

theorem sound_foldl (hd : d.Sound) (bytes : List UInt8) : (bytes.foldl feed d).Sound :=
  List.foldlRecOn (motive := Sound) _ _ hd fun _ hd byte _ => sound_feed hd byte

end Decoder

theorem eq_ofNat_iff {b byte : UInt8} {c : Char} (hc : c.toNat = b.toNat)
    (hbyte : byte.toNat < 0x80) : c = Char.ofNat byte.toNat ↔ byte = b := by
  rw [← Char.toNat_inj, toNat_ofNat_ascii hbyte, hc, eq_comm, UInt8.toNat_inj]

section Ascii

variable {b : UInt8} {c : Char} (hb : b.toNat < 0x80) (hc : c.toNat = b.toNat)

include hb hc

theorem mem_finish {d : Decoder} : c ∈ d.finish ↔ c ∈ d.text := by
  have hreplacement : c ≠ replacement := by
    rintro rfl
    have : replacement.toNat = 0xFFFD := rfl
    omega
  obtain ⟨text, pending⟩ := d
  cases pending <;> simp [Decoder.finish, hreplacement]

theorem mem_feed {d : Decoder} (hd : d.Sound) (byte : UInt8) :
    c ∈ (d.feed byte).text ↔ c ∈ d.text ∨ byte = b := by
  rcases Nat.lt_or_ge byte.toNat 0x80 with hbyte | hbyte
  · rw [Decoder.feed_ascii hd hbyte, List.mem_cons, eq_ofNat_iff hc hbyte,
      List.mem_reverse, mem_finish hb hc, or_comm]
  · obtain ⟨-, new, htext, hwide, -⟩ := Decoder.feed_wide hd hbyte
    have hnew : c ∉ new := by
      intro hmem
      have := hwide c hmem
      omega
    have hother : byte ≠ b := by
      rintro rfl
      omega
    rw [htext, List.mem_append, or_iff_right hnew, or_iff_left hother]

theorem mem_foldl_feed {d : Decoder} (hd : d.Sound) (bytes : List UInt8) :
    c ∈ (bytes.foldl Decoder.feed d).text ↔ c ∈ d.text ∨ b ∈ bytes := by
  induction bytes generalizing d with
  | nil => simp
  | cons byte bytes ih =>
      rw [List.foldl_cons, ih (Decoder.sound_feed hd byte), mem_feed hb hc hd, List.mem_cons,
        or_assoc, eq_comm (a := byte)]

/-- No other bytes are read as an ASCII character. -/
theorem mem_decode (bytes : List UInt8) : c ∈ (decode bytes).toList ↔ b ∈ bytes := by
  rw [decode, String.toList_ofList, mem_finish hb hc,
    mem_foldl_feed hb hc Decoder.sound_start]
  simp [Decoder.start]

theorem decode_append_cons (before after : List UInt8) :
    decode (before ++ b :: after) = decode before ++ String.singleton c ++ decode after := by
  have hsound := Decoder.sound_foldl Decoder.sound_start before
  have hchar : Char.ofNat b.toNat = c := by rw [← hc, Char.ofNat_toNat]
  have hfeed : (before ++ b :: after).foldl Decoder.feed .start =
      (after.foldl Decoder.feed .start).behind
        (c :: (before.foldl Decoder.feed .start).finish.reverse) := by
    rw [List.foldl_append, List.foldl_cons, Decoder.feed_ascii hsound hb, hchar,
      ← Decoder.foldl_feed_behind]
    rfl
  rw [decode, hfeed, Decoder.finish_behind, ← String.toList_inj]
  simp [decode]

theorem pieces_decode (bytes : List UInt8) :
    pieces c (decode bytes) = (piecesOf b bytes).map decode := by
  rw [pieces, piecesOf_eq_splitOn, piecesOf_eq_splitOn]
  induction bytes using split_induction b with
  | whole bytes hwhole =>
      have hread : c ∉ (decode bytes).toList := mt (mem_decode hb hc bytes).1 hwhole
      rw [List.splitOn_eq_singleton hwhole, List.splitOn_eq_singleton hread]
      simp
  | cut before after hwhole ih =>
      have hread : c ∉ (decode before).toList := mt (mem_decode hb hc before).1 hwhole
      rw [decode_append_cons hb hc, String.toList_append, String.toList_append,
        String.toList_singleton, List.append_assoc, List.singleton_append,
        List.splitOn_append_cons_self_of_not_mem hread,
        List.splitOn_append_cons_self_of_not_mem hwhole, List.map_cons, List.map_cons, ih,
        String.ofList_toList]

end Ascii

theorem finish_feed_ne_nil {d : Decoder} (hd : d.Sound) (byte : UInt8) :
    (d.feed byte).finish ≠ [] := by
  rcases Nat.lt_or_ge byte.toNat 0x80 with hbyte | hbyte
  · rw [Decoder.feed_ascii hd hbyte]
    simp [Decoder.finish]
  · obtain ⟨-, new, htext, -, hnew⟩ := Decoder.feed_wide hd hbyte
    cases hpending : (d.feed byte).pending with
    | none => simp [Decoder.finish, hpending, htext, hnew hpending]
    | some p => simp [Decoder.finish, hpending]

theorem decode_eq_empty_iff {bytes : List UInt8} : decode bytes = "" ↔ bytes = [] := by
  refine ⟨fun h => ?_, fun h => h ▸ rfl⟩
  rcases List.eq_nil_or_concat bytes with rfl | ⟨front, last, rfl⟩
  · rfl
  · rw [List.concat_eq_append] at h
    have hread : (decode (front ++ [last])).toList = [] := by rw [h]; rfl
    rw [decode, List.foldl_append, String.toList_ofList] at hread
    exact absurd hread (finish_feed_ne_nil (Decoder.sound_foldl Decoder.sound_start front) last)

end RemoteConsole.Text.Utf8
