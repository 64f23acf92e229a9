import RemoteConsole.Proofs.Store.Reading

namespace RemoteConsole.Store

variable {α β : Type}

inductive TextCut : Bytes → Prop
  | length {rest : Bytes} (h : rest.length < 4) : TextCut rest
  | content {n : Nat} {behind : Bytes} (hn : n ≤ longestText) (h : behind.length < n) :
      TextCut (numberBytes 4 n ++ behind)

/-- The first of so many texts that is not all there goes on behind the last byte. -/
inductive TextsCut : (count : Nat) → Bytes → Prop
  | head {count : Nat} {rest : Bytes} (h : TextCut rest) : TextsCut (count + 1) rest
  | tail {count : Nat} {bytes behind : Bytes} (hbytes : bytes.length ≤ longestText)
      (h : TextsCut count behind) :
      TextsCut (count + 1) (numberBytes 4 bytes.length ++ (bytes ++ behind))

inductive RunsOut : FieldKind → Bytes → Prop
  | number {kind : FieldKind} {width : Nat} {rest : Bytes} (hkind : kind.width? = some width)
      (h : rest.length < width) : RunsOut kind rest
  | text {rest : Bytes} (h : TextCut rest) : RunsOut .text rest
  | size {rest : Bytes} (h : rest.length < 8) : RunsOut .table rest
  | pairs {n : Nat} {behind : Bytes} (hn : n ≤ largestTable) (h : TextsCut (2 * n) behind) :
      RunsOut .table (numberBytes 8 n ++ behind)

def Failure.OfBytes : Failure → Prop
  | .truncated _ | .corrupt _ => True
  | _ => False

namespace ReadResult

/-- Bytes were missing. -/
def Torn (r : ReadResult α) : Prop :=
  ∃ last, r.1 = .error (.truncated last)

def FailsOfBytes (r : ReadResult α) : Prop :=
  ∀ e, r.1 = .error e → e.OfBytes

theorem not_torn_ok (a : α) (c : Cursor) : ¬ Torn (.ok a, c) :=
  nofun

theorem failsOfBytes_ok (a : α) (c : Cursor) : FailsOfBytes (.ok a, c) :=
  nofun

theorem torn_andThen {r : ReadResult α} {f : α → Cursor → ReadResult β} :
    (r.andThen f).Torn ↔ r.Torn ∨ ∃ a c, r = (.ok a, c) ∧ (f a c).Torn := by
  obtain ⟨result, c⟩ := r
  cases result with
  | error e => simp [andThen, Torn]
  | ok a =>
      constructor
      · exact fun h => .inr ⟨a, c, rfl, h⟩
      · rintro (h | ⟨_, _, ⟨⟩, h⟩)
        · exact absurd h (not_torn_ok a c)
        · exact h

theorem torn_map {r : ReadResult α} (f : α → β) :
    (r.andThen fun a c => (.ok (f a), c)).Torn ↔ r.Torn := by
  rw [torn_andThen]
  exact or_iff_left fun ⟨_, _, _, h⟩ => not_torn_ok _ _ h

theorem FailsOfBytes.andThen {r : ReadResult α} {f : α → Cursor → ReadResult β}
    (hr : r.FailsOfBytes) (hf : ∀ a c, (f a c).FailsOfBytes) : (r.andThen f).FailsOfBytes := by
  obtain ⟨result, c⟩ := r
  cases result with
  | error e => exact fun _ h => hr _ (by cases h; rfl)
  | ok a => exact hf a c

end ReadResult

namespace Cursor

open ReadResult

variable {c behind : Cursor} {width most n : Nat}

theorem torn_take : (c.take n).Torn ↔ c.rest.length < n := by
  rw [take, List.length_take]
  by_cases h : c.rest.length < n
  · rw [if_pos (by omega)]
    exact iff_of_true ⟨_, rfl⟩ h
  · rw [if_neg (by omega)]
    exact iff_of_false (not_torn_ok _ _) h

theorem torn_number : (c.number width).Torn ↔ c.rest.length < width :=
  (torn_map numberOf).trans torn_take

theorem number_eq_ok (h : c.number width = (.ok n, behind)) :
    n < Nat.pow 256 width ∧ c.rest = numberBytes width n ++ behind.rest := by
  obtain ⟨bytes, between, htake, hnumber⟩ := andThen_eq_ok h
  obtain ⟨hlength, rfl, rfl⟩ := take_eq_ok htake
  cases hnumber
  have hwidth : (c.rest.take width).length = width := List.length_take_of_le hlength
  have hlt := numberOf_lt (c.rest.take width)
  have hbytes := numberBytes_numberOf (c.rest.take width)
  rw [hwidth] at hlt hbytes
  rw [hbytes, List.take_append_drop]
  exact ⟨hlt, rfl⟩

theorem torn_count : (c.count width most).Torn ↔ c.rest.length < width := by
  rw [count, torn_andThen, torn_number]
  refine or_iff_left ?_
  rintro ⟨n, next, -, last, htorn⟩
  split at htorn <;> cases htorn

theorem torn_text : c.text.Torn ↔ TextCut c.rest := by
  rw [text, torn_andThen, torn_count]
  constructor
  · rintro (h | ⟨n, next, hcount, htorn⟩)
    · exact .length h
    · obtain ⟨hnumber, hn⟩ := count_eq_ok hcount
      rw [(number_eq_ok hnumber).2]
      exact .content hn (torn_take.1 ((torn_map _).1 htorn))
  · obtain ⟨position, rest⟩ := c
    rintro (h | ⟨hn, h⟩)
    · exact .inl h
    · rename_i n behind
      have hwidth : n < Nat.pow 256 4 := Nat.lt_of_le_of_lt hn (by decide)
      have hcount := (reads_count hn hwidth).whole position behind
      exact .inr ⟨n, _, hcount, (torn_map _).2 (torn_take.2 h)⟩

theorem text_eq_ok {s : String} (h : c.text = (.ok s, behind)) :
    ∃ bytes, bytes.length ≤ longestText ∧
      c.rest = numberBytes 4 bytes.length ++ (bytes ++ behind.rest) := by
  obtain ⟨n, between, hcount, hrest⟩ := andThen_eq_ok h
  obtain ⟨hnumber, hn⟩ := count_eq_ok hcount
  obtain ⟨bytes, next, htake, hdecode⟩ := andThen_eq_ok hrest
  obtain ⟨hlength, rfl, rfl⟩ := take_eq_ok htake
  cases hdecode
  have hwidth : (between.rest.take n).length = n := List.length_take_of_le hlength
  refine ⟨between.rest.take n, Nat.le_trans (Nat.le_of_eq hwidth) hn, ?_⟩
  rw [hwidth, List.take_append_drop, (number_eq_ok hnumber).2]

theorem torn_text_andThen {f : String → Cursor → ReadResult β} {count : Nat}
    (h : ∀ s c, (f s c).Torn ↔ TextsCut count c.rest) (c : Cursor) :
    (c.text.andThen f).Torn ↔ TextsCut (count + 1) c.rest := by
  rw [torn_andThen, torn_text]
  constructor
  · rintro (hcut | ⟨s, behind, htext, htorn⟩)
    · exact .head hcut
    · obtain ⟨bytes, hbytes, hrest⟩ := text_eq_ok htext
      rw [hrest]
      exact .tail hbytes ((h s behind).1 htorn)
  · obtain ⟨position, rest⟩ := c
    rintro (hcut | ⟨hbytes, hcut⟩)
    · exact .inl hcut
    · rename_i bytes behind
      have htext := (reads_text_of_bytes hbytes).whole position behind
      rw [List.append_assoc] at htext
      exact .inr ⟨_, _, htext, (h _ _).2 hcut⟩

theorem torn_pairs (d : Dictionary) (n : Nat) (c : Cursor) :
    (Cursor.pairs d n c).Torn ↔ TextsCut (2 * n) c.rest := by
  induction n generalizing d c with
  | zero => exact iff_of_false (not_torn_ok _ _) nofun
  | succ n ih =>
      exact torn_text_andThen (fun key => torn_text_andThen fun value => ih (d.insert key value)) c

theorem torn_table : c.table.Torn ↔ RunsOut .table c.rest := by
  rw [table, torn_andThen, torn_count]
  constructor
  · rintro (h | ⟨n, next, hcount, htorn⟩)
    · exact .size h
    · obtain ⟨hnumber, hn⟩ := count_eq_ok hcount
      rw [(number_eq_ok hnumber).2]
      exact .pairs hn ((torn_pairs .empty n next).1 htorn)
  · obtain ⟨position, rest⟩ := c
    rintro (⟨hkind, -⟩ | - | h | ⟨hn, h⟩)
    · cases hkind
    · exact .inl h
    · rename_i n behind
      have hwidth : n < Nat.pow 256 8 := Nat.lt_of_le_of_lt hn (by decide)
      have hcount := (reads_count hn hwidth).whole position behind
      exact .inr ⟨n, _, hcount, (torn_pairs .empty n _).2 h⟩

/-- Reading a value finds bytes missing exactly if it goes on behind the last one. -/
theorem torn_value (kind : FieldKind) (c : Cursor) :
    (c.value kind).Torn ↔ RunsOut kind c.rest := by
  cases kind with
  | byte | word16 | word32 | word64 =>
      refine ((torn_map _).trans torn_number).trans ⟨.number rfl, ?_⟩
      rintro ⟨⟨⟩, h⟩
      exact h
  | text =>
      refine ((torn_map Value.text).trans torn_text).trans ⟨.text, ?_⟩
      rintro (⟨hkind, -⟩ | h)
      · cases hkind
      · exact h
  | table => exact (torn_map Value.table).trans torn_table

theorem failsOfBytes_take (c : Cursor) (n : Nat) : (c.take n).FailsOfBytes := by
  intro e h
  rw [take] at h
  split at h <;> cases h
  trivial

theorem failsOfBytes_number (c : Cursor) (width : Nat) : (c.number width).FailsOfBytes :=
  (c.failsOfBytes_take width).andThen fun bytes => failsOfBytes_ok (numberOf bytes)

theorem failsOfBytes_count (c : Cursor) (width most : Nat) :
    (c.count width most).FailsOfBytes := by
  refine (c.failsOfBytes_number width).andThen fun n behind => ?_
  split
  · rintro _ ⟨⟩
    trivial
  · exact failsOfBytes_ok n behind

theorem failsOfBytes_text (c : Cursor) : c.text.FailsOfBytes :=
  (c.failsOfBytes_count 4 longestText).andThen fun n c =>
    (c.failsOfBytes_take n).andThen fun bytes => failsOfBytes_ok (Text.Utf8.decode bytes)

theorem failsOfBytes_pairs (d : Dictionary) (n : Nat) (c : Cursor) :
    (Cursor.pairs d n c).FailsOfBytes := by
  induction n generalizing d c with
  | zero => exact failsOfBytes_ok d c
  | succ n ih =>
      exact c.failsOfBytes_text.andThen fun key c => c.failsOfBytes_text.andThen fun value =>
        ih (d.insert key value)

theorem failsOfBytes_table (c : Cursor) : c.table.FailsOfBytes :=
  (c.failsOfBytes_count 8 largestTable).andThen fun n => failsOfBytes_pairs .empty n

theorem failsOfBytes_value (kind : FieldKind) (c : Cursor) : (c.value kind).FailsOfBytes := by
  cases kind with
  | byte | word16 | word32 | word64 =>
      exact (c.failsOfBytes_number _).andThen fun n => failsOfBytes_ok (Value.ofNumber _ n)
  | text => exact c.failsOfBytes_text.andThen fun s => failsOfBytes_ok (Value.text s)
  | table => exact c.failsOfBytes_table.andThen fun d => failsOfBytes_ok (Value.table d)

theorem kind_ofNumber (kind : FieldKind) (n : Nat) : (Value.ofNumber kind n).kind = kind := by
  cases kind <;> rfl

theorem kind_value {kind : FieldKind} {v : Value} (h : c.value kind = (.ok v, behind)) :
    v.kind = kind := by
  cases kind with
  | byte | word16 | word32 | word64 | text | table =>
      obtain ⟨a, between, -, hvalue⟩ := andThen_eq_ok h
      cases hvalue
      rfl

end Cursor

end RemoteConsole.Store
