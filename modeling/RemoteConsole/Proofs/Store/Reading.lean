import RemoteConsole.Proofs.Dictionary
import RemoteConsole.Proofs.Text.Utf8
import RemoteConsole.Store.Reader

namespace RemoteConsole.Store

variable {α β : Type}

theorem ReadResult.andThen_assoc {γ : Type} (r : ReadResult α) (f : α → Cursor → ReadResult β)
    (g : β → Cursor → ReadResult γ) :
    (r.andThen f).andThen g = r.andThen fun a c => (f a c).andThen g := by
  obtain ⟨result, c⟩ := r
  cases result <;> rfl

theorem ReadResult.andThen_eq_ok {r : ReadResult α} {f : α → Cursor → ReadResult β} {b : β}
    {behind : Cursor} (h : r.andThen f = (.ok b, behind)) :
    ∃ a c, r = (.ok a, c) ∧ f a c = (.ok b, behind) := by
  obtain ⟨result, c⟩ := r
  cases result with
  | error e => simp [ReadResult.andThen] at h
  | ok a => exact ⟨a, c, rfl, h⟩

/-- Whatever follows, reading takes `bytes` and gives `a`; where these end too early it says so. -/
structure Reads (read : Cursor → ReadResult α) (bytes : Bytes) (a : α) : Prop where
  whole (position : Nat) (rest : Bytes) :
    read ⟨position, bytes ++ rest⟩ = (.ok a, ⟨position + bytes.length, rest⟩)
  cut (position : Nat) (part missing : Bytes) (hsplit : bytes = part ++ missing)
    (hmissing : missing ≠ []) :
    ∃ last c, read ⟨position, part⟩ = (.error (.truncated last), c)

theorem Reads.pure (a : α) : Reads (fun c => (.ok a, c)) [] a where
  whole _ _ := rfl
  cut _ _ _ hsplit hmissing := absurd (List.append_eq_nil_iff.1 hsplit.symm).2 hmissing

theorem Reads.andThen {f : Cursor → ReadResult α} {g : α → Cursor → ReadResult β} {xs ys : Bytes}
    {a : α} {b : β} (hf : Reads f xs a) (hg : Reads (g a) ys b) :
    Reads (fun c => (f c).andThen g) (xs ++ ys) b where
  whole position rest := by
    rw [List.append_assoc, hf.whole]
    simp only [ReadResult.andThen]
    rw [hg.whole, List.length_append, Nat.add_assoc]
  cut position part missing hsplit hmissing := by
    rcases List.append_eq_append_iff.1 hsplit with ⟨taken, rfl, hys⟩ | ⟨lacking, hxs, hrest⟩
    · -- The cut is behind `xs`, so `f` succeeds and `g` meets the end.
      obtain ⟨last, c, hc⟩ := hg.cut (position + xs.length) taken missing hys hmissing
      refine ⟨last, c, ?_⟩
      rw [hf.whole]
      exact hc
    · cases lacking with
      | nil =>
          have hys : ys ≠ [] := by simpa [hrest] using hmissing
          obtain ⟨last, c, hc⟩ := hg.cut (position + xs.length) [] ys rfl hys
          refine ⟨last, c, ?_⟩
          have hpart : part = xs ++ [] := by simpa using hxs.symm
          rw [hpart, hf.whole]
          exact hc
      | cons b bs =>
          obtain ⟨last, c, hc⟩ := hf.cut position part (b :: bs) hxs (by simp)
          exact ⟨last, c, by rw [hc]; rfl⟩

theorem Reads.map {f : Cursor → ReadResult α} {xs : Bytes} {a : α} (hf : Reads f xs a) (k : α → β) :
    Reads (fun c => (f c).andThen fun a c => (.ok (k a), c)) xs (k a) := by
  have h := hf.andThen (g := fun a c => (.ok (k a), c)) (Reads.pure (k a))
  rwa [List.append_nil] at h

/-- On success at least so many bytes are taken from the front, and nothing else changes. The bytes
behind them play no part in it. -/
def Takes (least : Nat) (read : Cursor → ReadResult α) : Prop :=
  ∀ ⦃c a behind⦄, read c = (.ok a, behind) → ∃ taken, least ≤ taken.length ∧
    c.rest = taken ++ behind.rest ∧ behind.position = c.position + taken.length ∧
      Reads read taken a

theorem Takes.pure (a : α) : Takes 0 (fun c => (.ok a, c)) := by
  rintro c _ _ ⟨⟩
  exact ⟨[], Nat.le_refl 0, rfl, rfl, Reads.pure a⟩

theorem Takes.andThen {m n : Nat} {f : Cursor → ReadResult α} {g : α → Cursor → ReadResult β}
    (hf : Takes m f) (hg : ∀ a, Takes n (g a)) : Takes (m + n) (fun c => (f c).andThen g) := by
  intro c b behind h
  obtain ⟨a, between, hfc, hgc⟩ := ReadResult.andThen_eq_ok h
  obtain ⟨xs, hm, hxs, hp, hreadsF⟩ := hf hfc
  obtain ⟨ys, hn, hys, hq, hreadsG⟩ := hg a hgc
  refine ⟨xs ++ ys, ?_, ?_, ?_, hreadsF.andThen hreadsG⟩
  · rw [List.length_append]; omega
  · rw [hxs, hys, List.append_assoc]
  · rw [hq, hp, List.length_append, Nat.add_assoc]

theorem Takes.mono {m n : Nat} {f : Cursor → ReadResult α} (hf : Takes n f) (h : m ≤ n) :
    Takes m f := by
  intro c a behind hc
  obtain ⟨taken, hn, hrest⟩ := hf hc
  exact ⟨taken, Nat.le_trans h hn, hrest⟩

theorem numberBytes_numberOf (bytes : Bytes) :
    numberBytes bytes.length (numberOf bytes) = bytes := by
  induction bytes with
  | nil => rfl
  | cons b bs ih =>
      have hnumber : numberOf (b :: bs) = b.toNat + 256 * numberOf bs := rfl
      have hlow : (b.toNat + 256 * numberOf bs) % 256 = b.toNat := by
        have := b.toNat_lt
        omega
      have hhigh : (b.toNat + 256 * numberOf bs) / 256 = numberOf bs := by
        have := b.toNat_lt
        omega
      rw [hnumber, List.length_cons, numberBytes, hlow, hhigh, ih, UInt8.ofNat_toNat]

theorem numberOf_lt (bytes : Bytes) : numberOf bytes < Nat.pow 256 bytes.length := by
  rw [← numberBytes_numberOf bytes, numberOf_numberBytes, numberBytes_length]
  exact Nat.mod_lt _ (Nat.pow_pos (by decide))

namespace Cursor

theorem take_whole (position : Nat) (bytes rest : Bytes) :
    take ⟨position, bytes ++ rest⟩ bytes.length =
      (.ok bytes, ⟨position + bytes.length, rest⟩) := by
  simp [take]

theorem take_cut {position n : Nat} {part : Bytes} (h : part.length < n) :
    take ⟨position, part⟩ n = (.error (.truncated position), ⟨position, part⟩) := by
  simp only [take, List.length_take]
  rw [if_pos (by omega)]

theorem reads_take (bytes : Bytes) : Reads (fun c => c.take bytes.length) bytes bytes where
  whole position rest := take_whole position bytes rest
  cut position part missing hsplit hmissing := by
    refine ⟨position, ⟨position, part⟩, take_cut ?_⟩
    have h := List.length_pos_iff.2 hmissing
    rw [hsplit, List.length_append]
    omega

theorem take_eq_ok {n : Nat} {c behind : Cursor} {bytes : Bytes}
    (h : c.take n = (.ok bytes, behind)) :
    n ≤ c.rest.length ∧ bytes = c.rest.take n ∧ behind = ⟨c.position + n, c.rest.drop n⟩ := by
  simp only [take, List.length_take] at h
  split at h
  · cases h
  · cases h
    exact ⟨by omega, rfl, rfl⟩

theorem reads_number (width n : Nat) :
    Reads (fun c => c.number width) (numberBytes width n) (n % Nat.pow 256 width) := by
  have h := (reads_take (numberBytes width n)).map numberOf
  rw [numberBytes_length, numberOf_numberBytes] at h
  exact h

theorem count_eq_ok {width most n : Nat} {c behind : Cursor}
    (h : c.count width most = (.ok n, behind)) : c.number width = (.ok n, behind) ∧ n ≤ most := by
  obtain ⟨m, between, hnumber, hcount⟩ := ReadResult.andThen_eq_ok h
  split at hcount
  · cases hcount
  · cases hcount
    exact ⟨hnumber, by omega⟩

theorem reads_count_of_number {width most n : Nat} {bytes : Bytes}
    (h : Reads (fun c => c.number width) bytes n) (hmost : n ≤ most) :
    Reads (fun c => c.count width most) bytes n where
  whole position rest := by
    rw [count, h.whole]
    simp only [ReadResult.andThen]
    rw [if_neg (by omega)]
  cut position part missing hsplit hmissing := by
    obtain ⟨last, c, hc⟩ := h.cut position part missing hsplit hmissing
    exact ⟨last, c, by rw [count, hc]; rfl⟩

theorem reads_count {width most n : Nat} (hmost : n ≤ most) (hwidth : n < Nat.pow 256 width) :
    Reads (fun c => c.count width most) (numberBytes width n) n := by
  have h := reads_number width n
  rw [Nat.mod_eq_of_lt hwidth] at h
  exact reads_count_of_number h hmost

end Cursor

def TextFits (s : String) : Prop :=
  (Text.Utf8.encode s).length ≤ longestText

def PairFits (p : Pair) : Prop :=
  TextFits p.1 ∧ TextFits p.2

/-- The texts and tables in it are not too large to be read again. -/
def Value.Fits : Value → Prop
  | .text s => TextFits s
  | .table d => d.size ≤ largestTable ∧ ∀ p ∈ d.pairs, PairFits p
  | _ => True

instance : DecidablePred TextFits :=
  fun _ => inferInstanceAs (Decidable (_ ≤ _))

instance : DecidablePred PairFits :=
  fun _ => inferInstanceAs (Decidable (_ ∧ _))

instance : DecidablePred Value.Fits
  | .text s => inferInstanceAs (Decidable (TextFits s))
  | .table d => inferInstanceAs (Decidable (_ ∧ ∀ p ∈ d.pairs, PairFits p))
  | .byte _ | .word16 _ | .word32 _ | .word64 _ => .isTrue trivial

namespace Cursor

theorem reads_text_of_bytes {bytes : Bytes} (h : bytes.length ≤ longestText) :
    Reads text (numberBytes 4 bytes.length ++ bytes) (Text.Utf8.decode bytes) := by
  have hwidth : bytes.length < Nat.pow 256 4 := Nat.lt_of_le_of_lt h (by decide)
  exact (reads_count h hwidth).andThen
    (g := fun n c => (c.take n).andThen fun bytes c => (.ok (Text.Utf8.decode bytes), c))
    ((reads_take bytes).map Text.Utf8.decode)

theorem reads_text {s : String} (h : TextFits s) : Reads text (textBytes s) s := by
  have htext := reads_text_of_bytes h
  rwa [Text.Utf8.decode_encode] at htext

theorem reads_pairs {pairs : List Pair} (h : ∀ p ∈ pairs, PairFits p) (d : Dictionary) :
    Reads (Cursor.pairs d pairs.length) (pairs.flatMap pairBytes) (d.insertAll pairs) := by
  induction pairs generalizing d with
  | nil => exact Reads.pure d
  | cons p rest ih =>
      have hp := h p List.mem_cons_self
      have hrest := ih (fun q hq => h q (List.mem_cons_of_mem _ hq)) (d.insert p.1 p.2)
      have hvalue := (reads_text hp.2).andThen
        (g := fun value c => Cursor.pairs (d.insert p.1 value) rest.length c) hrest
      have hkey := (reads_text hp.1).andThen
        (g := fun key c => c.text.andThen fun value c =>
          Cursor.pairs (d.insert key value) rest.length c) hvalue
      rw [List.flatMap_cons, pairBytes, List.append_assoc]
      exact hkey

theorem reads_table {d : Dictionary} (hsize : d.size ≤ largestTable)
    (h : ∀ p ∈ d.pairs, PairFits p) :
    Reads table (numberBytes 8 d.size ++ d.pairs.flatMap pairBytes) d := by
  have hwidth : d.size < Nat.pow 256 8 := Nat.lt_of_le_of_lt hsize (by decide)
  have hpairs := reads_pairs h .empty
  rw [Dictionary.insertAll_self] at hpairs
  exact (reads_count hsize hwidth).andThen (g := fun n c => Cursor.pairs .empty n c) hpairs

theorem reads_word {kind : FieldKind} {v : Value} {width n : Nat}
    (hback : Value.ofNumber kind (n % Nat.pow 256 width) = v) :
    Reads (fun c => (c.number width).andThen fun n c => (.ok (.ofNumber kind n), c))
      (numberBytes width n) v := by
  rw [← hback]
  exact (reads_number width n).map (Value.ofNumber kind)

theorem reads_value {v : Value} (h : v.Fits) : Reads (fun c => c.value v.kind) v.bytes v := by
  cases v with
  | byte n | word16 n | word32 n | word64 n =>
      exact reads_word (by simp [Value.kind, FieldKind.width?, Value.ofNumber])
  | text s => exact (reads_text h).map Value.text
  | table d => exact (reads_table h.1 h.2).map Value.table

theorem takes_take (n : Nat) : Takes n (fun c => c.take n) := by
  intro c bytes behind h
  obtain ⟨hn, rfl, rfl⟩ := take_eq_ok h
  have hlength : (c.rest.take n).length = n := List.length_take_of_le hn
  have hreads := reads_take (c.rest.take n)
  rw [hlength] at hreads
  exact ⟨c.rest.take n, Nat.le_of_eq hlength.symm, (List.take_append_drop n c.rest).symm,
    by rw [hlength], hreads⟩

theorem takes_number (width : Nat) : Takes width (fun c => c.number width) :=
  (takes_take width).andThen fun bytes => Takes.pure (numberOf bytes)

theorem takes_count (width most : Nat) : Takes width (fun c => c.count width most) := by
  intro c n behind h
  obtain ⟨hnumber, hmost⟩ := count_eq_ok h
  obtain ⟨taken, hwidth, hrest, hposition, hreads⟩ := takes_number width hnumber
  exact ⟨taken, hwidth, hrest, hposition, reads_count_of_number hreads hmost⟩

theorem takes_text : Takes 4 text :=
  ((takes_count 4 longestText).andThen fun n =>
    ((takes_take n).andThen fun bytes => Takes.pure (Text.Utf8.decode bytes)).mono (Nat.zero_le _))

theorem takes_pairs (n : Nat) (d : Dictionary) : Takes 0 (Cursor.pairs d n) := by
  induction n generalizing d with
  | zero => exact Takes.pure d
  | succ n ih =>
      have h := takes_text.andThen fun key => takes_text.andThen fun value =>
        ih (d.insert key value)
      exact h.mono (Nat.zero_le _)

theorem takes_table : Takes 8 table :=
  (takes_count 8 largestTable).andThen fun n => takes_pairs n .empty

theorem takes_value (kind : FieldKind) : Takes 1 (fun c => c.value kind) := by
  cases kind with
  | byte | word16 | word32 | word64 =>
      exact ((takes_number _).andThen fun n => Takes.pure (Value.ofNumber _ n)).mono (by decide)
  | text => exact (takes_text.andThen fun s => Takes.pure (Value.text s)).mono (by decide)
  | table => exact (takes_table.andThen fun d => Takes.pure (Value.table d)).mono (by decide)

end Cursor

end RemoteConsole.Store
