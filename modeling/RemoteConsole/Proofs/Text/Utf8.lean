import RemoteConsole.Text.Utf8

namespace RemoteConsole.Text.Utf8

theorem toNat_bounds (c : Char) : c.toNat < 0xD800 ∨ 0xDFFF < c.toNat ∧ c.toNat < 0x110000 :=
  c.valid

theorem toNat_ofNat_ascii {n : Nat} (h : n < 0x80) : (Char.ofNat n).toNat = n := by
  have hvalid : n.isValidChar := .inl (by omega)
  rw [Char.ofNat, dif_pos hvalid]
  rfl

theorem feed_first {text : List Char} {b : Nat} (hb : b < 256) :
    Decoder.feed ⟨text, none⟩ (.ofNat b) = Decoder.lead ⟨text, none⟩ b := by
  have h : (UInt8.ofNat b).toNat = b := UInt8.toNat_ofNat_of_lt' hb
  simp only [Decoder.feed, h]

theorem feed_last {text : List Char} {low high value b : Nat} (hb : b < 256) (hl : low ≤ b)
    (hh : b ≤ high) :
    Decoder.feed ⟨text, some ⟨1, low, high, value⟩⟩ (.ofNat b) =
      ⟨Char.ofNat (value * 0x40 + (b - 0x80)) :: text, none⟩ := by
  have h : (UInt8.ofNat b).toNat = b := UInt8.toNat_ofNat_of_lt' hb
  simp [Decoder.feed, h, hl, hh, Decoder.push]

theorem feed_between {text : List Char} {owed low high value b : Nat} (hb : b < 256)
    (hl : low ≤ b) (hh : b ≤ high) :
    Decoder.feed ⟨text, some ⟨owed + 2, low, high, value⟩⟩ (.ofNat b) =
      ⟨text, some ⟨owed + 1, 0x80, 0xBF, value * 0x40 + (b - 0x80)⟩⟩ := by
  have h : (UInt8.ofNat b).toNat = b := UInt8.toNat_ofNat_of_lt' hb
  simp [Decoder.feed, h, hl, hh]

theorem lead_two {text : List Char} {b : Nat} (hl : 0xC2 ≤ b) (hh : b < 0xE0) :
    Decoder.lead ⟨text, none⟩ b = ⟨text, some ⟨1, 0x80, 0xBF, b - 0xC0⟩⟩ := by
  unfold Decoder.lead
  rw [if_neg (by omega), if_neg (by omega), if_pos hh]

theorem lead_three {text : List Char} {b : Nat} (hl : 0xE0 ≤ b) (hh : b < 0xF0) :
    Decoder.lead ⟨text, none⟩ b =
      ⟨text, some ⟨2, if b = 0xE0 then 0xA0 else 0x80, if b = 0xED then 0x9F else 0xBF,
        b - 0xE0⟩⟩ := by
  unfold Decoder.lead
  rw [if_neg (by omega), if_neg (by omega), if_neg (by omega), if_pos hh]

theorem lead_four {text : List Char} {b : Nat} (hl : 0xF0 ≤ b) (hh : b < 0xF5) :
    Decoder.lead ⟨text, none⟩ b =
      ⟨text, some ⟨3, if b = 0xF0 then 0x90 else 0x80, if b = 0xF4 then 0x8F else 0xBF,
        b - 0xF0⟩⟩ := by
  unfold Decoder.lead
  rw [if_neg (by omega), if_neg (by omega), if_neg (by omega), if_neg (by omega), if_pos hh]

/-- The bytes of a character, fed between characters, add this character alone. The bounds of the
second byte hold because a character is no surrogate and is written in the shortest form. -/
theorem feed_encodeChar (c : Char) (text : List Char) :
    (encodeChar c).foldl Decoder.feed ⟨text, none⟩ = ⟨c :: text, none⟩ := by
  have hc := toNat_bounds c
  have hback (n : Nat) (hn : n = c.toNat) : Char.ofNat n = c := by rw [hn, Char.ofNat_toNat]
  unfold encodeChar
  simp only
  generalize c.toNat = n at hc hback
  split
  · rename_i h1
    simp only [List.foldl_cons, List.foldl_nil]
    rw [feed_first (by omega), Decoder.lead, if_pos h1, hback n rfl]
    rfl
  · split
    · rename_i h1 h2
      simp only [List.foldl_cons, List.foldl_nil]
      rw [feed_first (by omega), lead_two (by omega) (by omega),
        feed_last (by omega) (by omega) (by omega), hback _ (by omega)]
    · split
      · rename_i h1 h2 h3
        simp only [List.foldl_cons, List.foldl_nil]
        rw [feed_first (by omega), lead_three (by omega) (by omega),
          feed_between (by omega) (by split <;> omega) (by split <;> omega),
          feed_last (by omega) (by omega) (by omega), hback _ (by omega)]
      · rename_i h1 h2 h3
        simp only [List.foldl_cons, List.foldl_nil]
        rw [feed_first (by omega), lead_four (by omega) (by omega),
          feed_between (by omega) (by split <;> omega) (by split <;> omega),
          feed_between (by omega) (by omega) (by omega),
          feed_last (by omega) (by omega) (by omega), hback _ (by omega)]

theorem feed_encode (cs text : List Char) :
    (cs.flatMap encodeChar).foldl Decoder.feed ⟨text, none⟩ = ⟨cs.reverse ++ text, none⟩ := by
  induction cs generalizing text with
  | nil => rfl
  | cons c cs ih => simp [List.foldl_append, feed_encodeChar, ih]

theorem decode_encode (s : String) : decode (encode s) = s := by
  have h : (encode s).foldl Decoder.feed .start = ⟨s.toList.reverse ++ [], none⟩ :=
    feed_encode s.toList []
  simp [decode, h, Decoder.finish]

theorem encodeChar_length_le (c : Char) : (encodeChar c).length ≤ 4 := by
  simp only [encodeChar]
  repeat' split
  all_goals simp

theorem encodeChar_length_pos (c : Char) : 0 < (encodeChar c).length := by
  simp only [encodeChar]
  repeat' split
  all_goals simp

theorem splitChars?_append (before behind : List Char) :
    splitChars? (before ++ behind) (before.flatMap encodeChar).length = some (before, behind) := by
  induction before with
  | nil => simp [splitChars?]
  | cons c before ih =>
      have hpos := encodeChar_length_pos c
      rw [List.flatMap_cons, List.length_append, List.cons_append]
      generalize hwidth : (encodeChar c).length = width at hpos
      obtain ⟨width, rfl⟩ := Nat.exists_eq_add_one.2 hpos
      rw [Nat.add_right_comm, splitChars?, hwidth, if_neg (by omega)]
      have hleft : width + (before.flatMap encodeChar).length + 1 - (width + 1) =
          (before.flatMap encodeChar).length := by omega
      rw [hleft, ih]
      rfl

theorem splitAt?_append (first last : String) :
    splitAt? (encode first).length (first ++ last) = some (first, last) := by
  rw [splitAt?, encode, String.toList_append, splitChars?_append]
  simp

theorem encodeChar_length_of_ascii : ∀ b < 0x80, (encodeChar (Char.ofNat b)).length = 1 := by
  decide

def Decoder.written (d : Decoder) : Nat :=
  (d.finish.flatMap encodeChar).length

theorem written_between (text : List Char) :
    Decoder.written ⟨text, none⟩ = (text.flatMap encodeChar).length := by
  simp [Decoder.written, Decoder.finish, List.length_flatMap, List.sum_reverse]

theorem written_within (text : List Char) (p : Underway) :
    Decoder.written ⟨text, some p⟩ = 3 + (text.flatMap encodeChar).length := by
  have hreplacement : (encodeChar replacement).length = 3 := rfl
  simp [Decoder.written, Decoder.finish, List.length_flatMap, List.sum_reverse, hreplacement]
  omega

theorem written_lead_le (text : List Char) (b : Nat) :
    (Decoder.lead ⟨text, none⟩ b).written ≤ Decoder.written ⟨text, none⟩ + 3 := by
  have hreplacement : (encodeChar replacement).length = 3 := rfl
  unfold Decoder.lead
  split
  · rename_i hascii
    simp only [Decoder.push, written_between, List.flatMap_cons, List.length_append,
      encodeChar_length_of_ascii b hascii]
    omega
  · repeat' split
    all_goals
      simp only [Decoder.push, written_between, written_within, List.flatMap_cons,
        List.length_append, hreplacement]
      omega

/-- A byte adds at most three. The last byte of a character may add one more to its text than the
replacement that stood for it, whose three were counted before. -/
theorem written_feed_le (d : Decoder) (byte : UInt8) : (d.feed byte).written ≤ d.written + 3 := by
  obtain ⟨text, pending⟩ := d
  cases pending with
  | none => exact written_lead_le text byte.toNat
  | some p =>
      simp only [Decoder.feed]
      split
      · split
        · have hchar := encodeChar_length_le (Char.ofNat (p.value * 0x40 + (byte.toNat - 0x80)))
          simp only [Decoder.push, written_between, written_within, List.flatMap_cons,
            List.length_append]
          omega
        · simp only [written_within]
          omega
      · have hlead := written_lead_le (replacement :: text) byte.toNat
        have hreplacement : (encodeChar replacement).length = 3 := rfl
        simp only [written_between, written_within, List.flatMap_cons, List.length_append,
          hreplacement, Decoder.push] at hlead ⊢
        exact hlead

theorem written_foldl_le (bytes : List UInt8) (d : Decoder) :
    (bytes.foldl Decoder.feed d).written ≤ d.written + 3 * bytes.length := by
  induction bytes generalizing d with
  | nil => exact Nat.le_refl _
  | cons b bs ih =>
      have hfeed := written_feed_le d b
      have hrest := ih (d.feed b)
      rw [List.foldl_cons, List.length_cons]
      omega

theorem encode_decode_length_le (bytes : List UInt8) :
    (encode (decode bytes)).length ≤ 3 * bytes.length := by
  have hstart : Decoder.start.written = 0 := rfl
  have h := written_foldl_le bytes .start
  rw [hstart, Nat.zero_add] at h
  simpa [encode, decode, Decoder.written] using h

theorem feed_never (n : Nat) (text : List Char) :
    (List.replicate n 0xFF).foldl Decoder.feed ⟨text, none⟩ =
      ⟨List.replicate n replacement ++ text, none⟩ := by
  induction n generalizing text with
  | zero => rfl
  | succ n ih =>
      have hfeed : Decoder.feed ⟨text, none⟩ 0xFF = ⟨replacement :: text, none⟩ := rfl
      rw [List.replicate_succ, List.foldl_cons, hfeed, ih, List.replicate_succ', List.append_assoc]
      rfl

theorem decode_never (n : Nat) :
    decode (List.replicate n 0xFF) = .ofList (List.replicate n replacement) := by
  have h : (List.replicate n 0xFF).foldl Decoder.feed .start =
      ⟨List.replicate n replacement ++ [], none⟩ := feed_never n []
  simp [decode, h, Decoder.finish]

theorem encode_replicate_succ (n : Nat) (c : Char) :
    encode (.ofList (List.replicate (n + 1) c)) =
      encodeChar c ++ encode (.ofList (List.replicate n c)) := by
  simp [encode, List.replicate_succ]

theorem encode_replicate_length (n : Nat) (c : Char) :
    (encode (.ofList (List.replicate n c))).length = n * (encodeChar c).length := by
  simp [encode, List.length_flatMap]

end RemoteConsole.Text.Utf8
