import Mathlib.Data.List.Induction
import RemoteConsole.Proofs.Text.Number
import RemoteConsole.Proofs.Text.Utf8

namespace RemoteConsole.Text

theorem isHexDigit_iff (c : Char) : c.isHexDigit = true ↔
    (48 ≤ c.toNat ∧ c.toNat ≤ 57) ∨ (97 ≤ c.toNat ∧ c.toNat ≤ 102) ∨
      (65 ≤ c.toNat ∧ c.toNat ≤ 70) := by
  simp only [Char.isHexDigit, Bool.or_eq_true, Bool.and_eq_true, isDigit_iff, decide_eq_true_eq,
    ge_iff_le, UInt32.le_iff_toNat_le, or_assoc]
  exact Iff.rfl

theorem toNat_toUpper (c : Char) :
    c.toUpper.toNat = if 97 ≤ c.toNat ∧ c.toNat ≤ 122 then c.toNat - 32 else c.toNat := by
  have hlow : 'a'.val ≤ c.val ↔ 97 ≤ c.toNat := UInt32.le_iff_toNat_le
  have hhigh : c.val ≤ 'z'.val ↔ c.toNat ≤ 122 := UInt32.le_iff_toNat_le
  unfold Char.toUpper
  simp only [hlow, hhigh]
  split
  · have hshift : ('A'.val - 'a'.val).toNat = 2 ^ 32 - 32 := rfl
    rw [Char.toNat_mk, UInt32.toNat_add, hshift]
    have hc : c.val.toNat = c.toNat := rfl
    omega
  · rfl

theorem toNat_hexDigit {d : Nat} (hd : d < 16) :
    (hexDigit true d).toNat = if d < 10 then 48 + d else 55 + d := by
  unfold hexDigit
  split
  · exact Utf8.toNat_ofNat_ascii (by omega)
  · exact Utf8.toNat_ofNat_ascii (by simp only [if_true]; omega)

theorem isSome_digit?_sixteen (c : Char) : (digit? 16 c).isSome ↔ c.isHexDigit = true := by
  simp only [digit?, isHexDigit_iff]
  split_ifs <;> simp <;> omega

theorem hexDigit_of_digit? {c : Char} {d : Nat} (h : digit? 16 c = some d) :
    d < 16 ∧ hexDigit true d = c.toUpper := by
  have hvalue : d < 16 ∧ c.toUpper.toNat = if d < 10 then 48 + d else 55 + d := by
    rw [toNat_toUpper]
    simp only [digit?] at h
    split_ifs at h ⊢ <;> simp only [Option.some.injEq] at h <;> omega
  refine ⟨hvalue.1, Char.toNat_inj.1 ?_⟩
  rw [toNat_hexDigit hvalue.1, hvalue.2]

section Read

variable {cs : List Char}

theorem isSome_foldlM_digit?_sixteen (start : Nat) :
    (cs.foldlM (fun n c => (digit? 16 c).map (16 * n + ·)) start).isSome ↔
      ∀ c ∈ cs, c.isHexDigit = true := by
  induction cs generalizing start with
  | nil => simp
  | cons c cs ih =>
      rw [List.foldlM_cons, List.forall_mem_cons, ← isSome_digit?_sixteen]
      cases digit? 16 c with
      | none => simp
      | some d => simpa using ih _

theorem isSome_natural?_sixteen :
    (natural? 16 cs).isSome ↔ cs ≠ [] ∧ ∀ c ∈ cs, c.isHexDigit = true := by
  cases cs with
  | nil => simp [natural?]
  | cons c cs =>
      rw [and_iff_right (List.cons_ne_nil c cs)]
      exact isSome_foldlM_digit?_sixteen 0

/-- By induction from the last digit, which is the lowest. -/
theorem hexDigits_of_foldlM {n : Nat}
    (h : cs.foldlM (fun n c => (digit? 16 c).map (16 * n + ·)) 0 = some n) :
    n < 16 ^ cs.length ∧ hexDigits true cs.length n = cs.map Char.toUpper := by
  induction cs using List.reverseRecOn generalizing n with
  | nil =>
      cases h
      exact ⟨by decide, rfl⟩
  | append_singleton cs c ih =>
      rw [List.foldlM_append] at h
      obtain ⟨m, hm, hlast⟩ := Option.bind_eq_some_iff.1 h
      simp only [List.foldlM_cons, List.foldlM_nil, Option.bind_eq_bind, Option.pure_def,
        Option.map_eq_some_iff, Option.bind_eq_some_iff] at hlast
      obtain ⟨_, ⟨d, hd, rfl⟩, hn⟩ := hlast
      cases hn
      obtain ⟨hlt, hdigits⟩ := ih hm
      obtain ⟨hd, hdigit⟩ := hexDigit_of_digit? hd
      have hhigh : (16 * m + d) / 16 = m := by omega
      have hlow : (16 * m + d) % 16 = d := by omega
      rw [List.length_append, List.length_singleton, hexDigits, hhigh, hlow, hdigits, hdigit,
        Nat.pow_succ, List.map_append]
      exact ⟨by omega, rfl⟩

theorem hexDigits_of_natural? {n : Nat} (h : natural? 16 cs = some n) :
    n < 16 ^ cs.length ∧ hexDigits true cs.length n = cs.map Char.toUpper := by
  cases cs with
  | nil => cases h
  | cons c cs => exact hexDigits_of_foldlM h

end Read

def IsHexText (count : Nat) (s : String) : Prop :=
  s.toList.length = count ∧ ∀ c ∈ s.toList, c.isHexDigit = true

theorem encodeChar_of_ascii {c : Char} (h : c.toNat < 0x80) :
    Utf8.encodeChar c = [.ofNat c.toNat] := by
  simp only [Utf8.encodeChar, if_pos h]

theorem exists_mem_encodeChar {c : Char} (h : 0x80 ≤ c.toNat) :
    ∃ b ∈ Utf8.encodeChar c, 0x80 ≤ b.toNat := by
  have hc := Utf8.toNat_bounds c
  simp only [Utf8.encodeChar]
  split_ifs
  · omega
  all_goals
    refine ⟨_, List.mem_cons_self, ?_⟩
    rw [UInt8.toNat_ofNat_of_lt' (by simp only [UInt8.size]; omega)]
    omega

theorem forall_mem_encodeChar (c : Char) :
    (∀ b ∈ Utf8.encodeChar c, (Char.ofNat b.toNat).isHexDigit = true) ↔ c.isHexDigit = true := by
  by_cases h : c.toNat < 0x80
  · have hback : (UInt8.ofNat c.toNat).toNat = c.toNat :=
      UInt8.toNat_ofNat_of_lt' (by simp only [UInt8.size]; omega)
    simp [encodeChar_of_ascii h, hback]
  · obtain ⟨b, hb, hlarge⟩ := exists_mem_encodeChar (Nat.not_lt.1 h)
    have hlt := b.toNat_lt
    refine iff_of_false (fun hall => ?_) ?_
    · have hdigit := (isHexDigit_iff _).1 (hall b hb)
      have hvalid : b.toNat.isValidChar := .inl (by omega)
      have hback : (Char.ofNat b.toNat).toNat = b.toNat := by
        rw [Char.ofNat, dif_pos hvalid]
        rfl
      omega
    · rw [isHexDigit_iff]
      omega

theorem length_encode_of_hex {cs : List Char} (h : ∀ c ∈ cs, c.isHexDigit = true) :
    (Utf8.encode (.ofList cs)).length = cs.length := by
  have hone : ∀ c ∈ cs, (Utf8.encodeChar c).length = 1 := by
    intro c hc
    have hdigit := (isHexDigit_iff c).1 (h c hc)
    rw [encodeChar_of_ascii (by omega), List.length_singleton]
  rw [Utf8.encode, String.toList_ofList, List.length_flatMap, List.map_congr_left hone,
    List.map_const', List.sum_replicate_nat, Nat.mul_one]

theorem isHexText_iff_encode {count : Nat} {s : String} :
    IsHexText count s ↔ (Utf8.encode s).length = count ∧
      ∀ b ∈ Utf8.encode s, (Char.ofNat b.toNat).isHexDigit = true := by
  have hall : (∀ b ∈ Utf8.encode s, (Char.ofNat b.toNat).isHexDigit = true) ↔
      ∀ c ∈ s.toList, c.isHexDigit = true := by
    simp only [Utf8.encode, List.forall_mem_flatMap, forall_mem_encodeChar]
  rw [IsHexText, hall]
  refine and_congr_left fun h => ?_
  have hlength := length_encode_of_hex h
  rw [String.ofList_toList] at hlength
  rw [hlength]

theorem IsHexText.split {m n : Nat} {s : String} (h : IsHexText (m + n) s) :
    ∃ first last, s = first ++ last ∧ IsHexText m first ∧ IsHexText n last := by
  obtain ⟨hlength, hdigits⟩ := h
  refine ⟨.ofList (s.toList.take m), .ofList (s.toList.drop m), ?_, ?_, ?_⟩
  · rw [← String.ofList_append, List.take_append_drop, String.ofList_toList]
  · rw [IsHexText, String.toList_ofList, List.length_take]
    exact ⟨by omega, fun c hc => hdigits c (List.mem_of_mem_take hc)⟩
  · rw [IsHexText, String.toList_ofList, List.length_drop]
    exact ⟨by omega, fun c hc => hdigits c (List.mem_of_mem_drop hc)⟩

theorem IsHexText.append {m n : Nat} {first last : String} (hfirst : IsHexText m first)
    (hlast : IsHexText n last) : IsHexText (m + n) (first ++ last) := by
  rw [IsHexText, String.toList_append, List.length_append, hfirst.1, hlast.1,
    List.forall_mem_append]
  exact ⟨rfl, hfirst.2, hlast.2⟩

theorem isHexText_hex (n : UInt64) : IsHexText 16 (hex true 16 n.toNat) := by
  have hread : natural? 16 (hexDigits true 16 n.toNat) = some n.toNat :=
    natural?_hexDigits true (by decide) n.toNat_lt
  have hdigits := isSome_natural?_sixteen.1 (Option.isSome_of_eq_some hread)
  rw [IsHexText, hex, String.toList_ofList]
  exact ⟨length_hexDigits true 16 n.toNat, hdigits.2⟩

theorem IsHexText.hex64? {s : String} (h : IsHexText 16 s) :
    ∃ n, hex64? s = some n ∧ hex true 16 n.toNat = s.toUpper := by
  obtain ⟨hlength, hdigits⟩ := h
  have hne : s.toList ≠ [] := by
    rw [← List.length_pos_iff, hlength]
    decide
  obtain ⟨n, hread⟩ := Option.isSome_iff_exists.1 (isSome_natural?_sixteen.2 ⟨hne, hdigits⟩)
  obtain ⟨hlt, hupper⟩ := hexDigits_of_natural? hread
  rw [hlength] at hlt hupper
  have hunsigned : unsigned? 16 UInt64.size s = some n := by
    simpa using unsigned?_of_natural? hread hlt
  refine ⟨.ofNat n, by rw [Text.hex64?, hunsigned, Option.map_some], ?_⟩
  rw [hex, UInt64.toNat_ofNat_of_lt' hlt, hupper, String.toUpper, ← String.toList_map,
    String.ofList_toList]

end RemoteConsole.Text
