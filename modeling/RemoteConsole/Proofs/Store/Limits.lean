import RemoteConsole.Proofs.Ban.Entry
import RemoteConsole.Proofs.Ladder.Entry

namespace RemoteConsole.Store

variable {α β : Type}

def Gives (P : α → Prop) (read : Cursor → ReadResult α) : Prop :=
  ∀ ⦃c a behind⦄, read c = (.ok a, behind) → P a

theorem Gives.pure {P : α → Prop} {a : α} (h : P a) : Gives P (fun c => (.ok a, c)) := by
  rintro c _ _ ⟨⟩
  exact h

theorem Gives.andThen {P : α → Prop} {Q : β → Prop} {f : Cursor → ReadResult α}
    {g : α → Cursor → ReadResult β} (hf : Gives P f) (hg : ∀ a, P a → Gives Q (g a)) :
    Gives Q (fun c => (f c).andThen g) := by
  intro c b behind h
  obtain ⟨a, between, hfc, hgc⟩ := ReadResult.andThen_eq_ok h
  exact hg a (hf hfc) hgc

def TextShort (s : String) : Prop :=
  (Text.Utf8.encode s).length < Nat.pow 256 4

def PairShort (p : Pair) : Prop :=
  TextShort p.1 ∧ TextShort p.2

def Value.Short : Value → Prop
  | .text s => TextShort s
  | .table d => d.size < Nat.pow 256 8 ∧ ∀ p ∈ d.pairs, PairShort p
  | _ => True

theorem textShort_decode {bytes : Bytes} (h : bytes.length ≤ longestText) :
    TextShort (Text.Utf8.decode bytes) := by
  have hgrown := Text.Utf8.encode_decode_length_le bytes
  have hlongest : 3 * longestText < Nat.pow 256 4 := by decide
  rw [TextShort]
  omega

namespace Cursor

theorem gives_take (n : Nat) : Gives (fun bytes => bytes.length = n) (fun c => c.take n) := by
  intro c bytes behind h
  simp only [take] at h
  split at h
  · cases h
  · rename_i hn
    cases h
    rw [List.length_take] at hn ⊢
    omega

theorem gives_count (width most : Nat) : Gives (fun n => n ≤ most) (fun c => c.count width most) :=
  fun _ _ _ h => (count_eq_ok h).2

theorem gives_text : Gives TextShort text := by
  refine (gives_count 4 longestText).andThen fun n hn => ?_
  refine (gives_take n).andThen fun bytes hbytes => ?_
  exact Gives.pure (textShort_decode (hbytes ▸ hn))

theorem gives_pairs (n : Nat) {d : Dictionary} (h : ∀ p ∈ d.pairs, PairShort p) :
    Gives (fun e : Dictionary => e.size ≤ d.size + n ∧ ∀ p ∈ e.pairs, PairShort p)
      (Cursor.pairs d n) := by
  induction n generalizing d with
  | zero => exact Gives.pure ⟨Nat.le_refl _, h⟩
  | succ n ih =>
      refine gives_text.andThen fun key hkey => gives_text.andThen fun value hvalue => ?_
      have hrest := ih (Dictionary.forall_insert h (⟨hkey, hvalue⟩ : PairShort (key, value)))
      intro c e behind he
      obtain ⟨hsize, hpairs⟩ := hrest he
      have hinsert := d.size_insert_le key value
      exact ⟨by omega, hpairs⟩

theorem gives_table : Gives (fun d => (Value.table d).Short) table := by
  refine (gives_count 8 largestTable).andThen fun n hn c d behind hd => ?_
  obtain ⟨hsize, hpairs⟩ := gives_pairs n (d := .empty) (by simp [Dictionary.empty]) hd
  have hempty : Dictionary.empty.size = 0 := rfl
  have hlargest : largestTable < Nat.pow 256 8 := by decide
  exact ⟨by omega, hpairs⟩

theorem gives_value (kind : FieldKind) : Gives Value.Short (fun c => c.value kind) := by
  cases kind with
  | text => exact gives_text.andThen fun s hs => Gives.pure (P := Value.Short) hs
  | table => exact gives_table.andThen fun d hd => Gives.pure (P := Value.Short) hd
  | byte | word16 | word32 | word64 =>
      exact fun c v behind h => by
        obtain ⟨n, between, -, hv⟩ := ReadResult.andThen_eq_ok h
        cases hv
        trivial

theorem le_of_count {width most n m position : Nat} {rest : Bytes} {behind : Cursor}
    (hwidth : n < Nat.pow 256 width)
    (h : count ⟨position, numberBytes width n ++ rest⟩ width most = (.ok m, behind)) :
    n ≤ most := by
  obtain ⟨hnumber, hmost⟩ := count_eq_ok h
  rw [(reads_number width n).whole, Nat.mod_eq_of_lt hwidth] at hnumber
  cases hnumber
  exact hmost

theorem text_of_short {s s' : String} {position : Nat} {rest : Bytes} {behind : Cursor}
    (hshort : TextShort s) (h : text ⟨position, textBytes s ++ rest⟩ = (.ok s', behind)) :
    TextFits s ∧ s' = s ∧ behind = ⟨position + (textBytes s).length, rest⟩ := by
  obtain ⟨n, between, hcount, -⟩ := ReadResult.andThen_eq_ok h
  rw [textBytes, List.append_assoc] at hcount
  have hfits : TextFits s := le_of_count hshort hcount
  rw [(reads_text hfits).whole] at h
  cases h
  exact ⟨hfits, rfl, rfl⟩

theorem fits_of_pairs {pairs : List Pair} (hshort : ∀ p ∈ pairs, PairShort p) {d d' : Dictionary}
    {position : Nat} {rest : Bytes} {behind : Cursor}
    (h : Cursor.pairs d pairs.length ⟨position, pairs.flatMap pairBytes ++ rest⟩ =
      (.ok d', behind)) : ∀ p ∈ pairs, PairFits p := by
  induction pairs generalizing d position with
  | nil => exact fun p hp => absurd hp List.not_mem_nil
  | cons p ps ih =>
      obtain ⟨hkey, hvalue⟩ := hshort p List.mem_cons_self
      rw [List.flatMap_cons, pairBytes] at h
      simp only [List.append_assoc] at h
      obtain ⟨key, c, hreadKey, h⟩ := ReadResult.andThen_eq_ok h
      obtain ⟨hfitsKey, rfl, rfl⟩ := text_of_short hkey hreadKey
      obtain ⟨value, c, hreadValue, h⟩ := ReadResult.andThen_eq_ok h
      obtain ⟨hfitsValue, rfl, rfl⟩ := text_of_short hvalue hreadValue
      have hrest := ih (fun q hq => hshort q (List.mem_cons_of_mem _ hq)) h
      exact List.forall_mem_cons.2 ⟨⟨hfitsKey, hfitsValue⟩, hrest⟩

theorem fits_of_table {d d' : Dictionary} {position : Nat} {rest : Bytes} {behind : Cursor}
    (hshort : (Value.table d).Short)
    (h : table ⟨position, (Value.table d).bytes ++ rest⟩ = (.ok d', behind)) :
    (Value.table d).Fits := by
  rw [Value.bytes, List.append_assoc] at h
  obtain ⟨n, between, hcount, h⟩ := ReadResult.andThen_eq_ok h
  have hsize : d.size ≤ largestTable := le_of_count hshort.1 hcount
  rw [(reads_count hsize hshort.1).whole] at hcount
  cases hcount
  exact ⟨hsize, fits_of_pairs hshort.2 h⟩

theorem fits_of_value {v w : Value} {position : Nat} {rest : Bytes} {behind : Cursor}
    (hshort : v.Short) (h : value ⟨position, v.bytes ++ rest⟩ v.kind = (.ok w, behind)) :
    v.Fits := by
  cases v with
  | byte n | word16 n | word32 n | word64 n => trivial
  | text s =>
      simp only [value, Value.kind] at h
      obtain ⟨s', between, htext, -⟩ := ReadResult.andThen_eq_ok h
      exact (text_of_short hshort htext).1
  | table d =>
      simp only [value, Value.kind] at h
      obtain ⟨d', between, htable, -⟩ := ReadResult.andThen_eq_ok h
      exact fits_of_table hshort htable

theorem fits_of_fields {version : UInt8} {fs : List Field} {vs : List Value}
    (hkinds : vs.map Value.kind = fs.map Field.kind) (hsince : ∀ f ∈ fs, f.since ≤ version)
    {position : Nat} {rest : Bytes} {behind : Cursor}
    (h : fields version fs ⟨position, vs.flatMap Value.bytes ++ rest⟩ = (.ok vs, behind)) :
    ∀ v ∈ vs, v.Fits := by
  induction fs generalizing vs position with
  | nil =>
      rw [List.map_eq_nil_iff.1 hkinds]
      exact fun v hv => absurd hv List.not_mem_nil
  | cons f fs ih =>
      cases vs with
      | nil => simp at hkinds
      | cons v vs =>
          obtain ⟨hkind, hkinds⟩ := List.cons_eq_cons.1 hkinds
          have hholds : ¬ version < f.since := UInt8.not_lt.2 (hsince f List.mem_cons_self)
          rw [List.flatMap_cons, List.append_assoc] at h
          obtain ⟨w, between, hvalue, h⟩ := ReadResult.andThen_eq_ok h
          obtain ⟨ws, last, hfields, h⟩ := ReadResult.andThen_eq_ok h
          cases h
          rw [field_of_holds hholds, ← hkind] at hvalue
          simp only at hvalue
          -- A length can wrap in its prefix, and then some other text is read. It is not `v` that
          -- comes back there, since no text that is read is so long.
          have hfits := fits_of_value (gives_value v.kind hvalue) hvalue
          rw [(reads_value hfits).whole] at hvalue
          cases hvalue
          have hrest := ih hkinds (fun g hg => hsince g (List.mem_cons_of_mem _ hg)) hfields
          exact List.forall_mem_cons.2 ⟨hfits, hrest⟩

end Cursor

variable [Record α]

theorem fits_of_decode [Storable α] [Faithful α] {r : α} {position : Nat} {rest : Bytes}
    {behind : Cursor}
    (h : decode (Record.schema α).current ⟨position, bytesOf r ++ rest⟩ =
      .ok (Storable.stored r, behind)) : Fits r := by
  obtain ⟨vs, hfields, hvalues⟩ := fields_of_decode h
  have hvs : vs = Record.values r := by
    rw [← Faithful.values_of_ofValues hvalues, values_stored]
  rw [hvs] at hfields
  exact Cursor.fits_of_fields (Storable.kinds r) Storable.since_le hfields

/-- What is written of a record is read back as this record, and no byte more is taken. -/
def ReadsBack [Storable α] (r : α) (position : Nat) (suffix : Bytes) : Prop :=
  ∀ bytes, encode r = .ok bytes →
    decode (Record.schema α).current ⟨position, bytes ++ suffix⟩ =
      .ok (Storable.stored r, ⟨position + bytes.length, suffix⟩)

theorem readsBack_iff_fits [Storable α] [Faithful α] {r : α} {position : Nat} {suffix : Bytes} :
    ReadsBack r position suffix ↔ Fits r := by
  constructor
  · intro h
    exact fits_of_decode (h (bytesOf r) (encode_eq r))
  · intro hfits bytes hbytes
    rw [encode_eq] at hbytes
    cases hbytes
    exact decode_whole hfits position suffix

/-- Every record is written, and it is read back exactly if its texts and its table are within the
limits, whatever stands behind it. -/
theorem every_record_is_written_but_only_fitting_ones_are_read_back (position : Nat)
    (suffix : Bytes) :
    (∀ b : Ban.Entry, (∃ bytes, encode b = .ok bytes) ∧
      (ReadsBack b position suffix ↔ Fits b)) ∧
    ∀ e : Ladder.Entry, (∃ bytes, encode e = .ok bytes) ∧
      (ReadsBack e position suffix ↔ Fits e) :=
  ⟨fun b => ⟨⟨_, encode_eq b⟩, readsBack_iff_fits⟩, fun e => ⟨⟨_, encode_eq e⟩, readsBack_iff_fits⟩⟩

theorem not_fits_of_front [Storable α] {r : α} {position last : Nat} {front missing : Bytes}
    (hsplit : bytesOf r = front ++ missing) (hmissing : missing ≠ [])
    (hdecode : decode (α := α) (Record.schema α).current ⟨position, front⟩ =
      .error (.corrupt last)) : ¬ Fits r := by
  intro hfits
  obtain ⟨last', hcut⟩ := decode_cut hfits position hsplit hmissing
  rw [hcut] at hdecode
  cases hdecode

def blankNumbers : List Value :=
  (Record.values ({ account := 1 } : Ladder.Entry)).take 64

def upToName : Bytes :=
  1 :: List.replicate 279 0

theorem bytesOf_named (name : String) :
    bytesOf ({ account := 1, name } : Ladder.Entry) =
      upToName ++ numberBytes 4 (Text.Utf8.encode name).length ++ Text.Utf8.encode name := by
  have hvalues : Record.values ({ account := 1, name } : Ladder.Entry) =
      blankNumbers ++ [.text name] := rfl
  have hnumbers : blankNumbers.flatMap Value.bytes = upToName := by decide +kernel
  rw [bytesOf, hvalues, List.flatMap_append, hnumbers, List.flatMap_singleton, List.append_assoc]
  rfl

theorem bytesOf_replicate (n : Nat) (c : Char) :
    bytesOf ({ account := 1, name := .ofList (List.replicate (n + 1) c) } : Ladder.Entry) =
      upToName ++ numberBytes 4 ((n + 1) * (Text.Utf8.encodeChar c).length) ++
        Text.Utf8.encodeChar c ++ Text.Utf8.encode (.ofList (List.replicate n c)) := by
  rw [bytesOf_named, Text.Utf8.encode_replicate_length, Text.Utf8.encode_replicate_succ,
    ← List.append_assoc]

theorem encode_replicate_ne_nil {n : Nat} (hn : 0 < n) (c : Char) :
    Text.Utf8.encode (.ofList (List.replicate n c)) ≠ [] := by
  refine List.ne_nil_of_length_pos ?_
  rw [Text.Utf8.encode_replicate_length]
  exact Nat.mul_pos hn (Text.Utf8.encodeChar_length_pos c)

set_option maxRecDepth 4000 in
/-- What is written of the entry does not only end too late: its front is refused already. -/
theorem a_long_name_is_written_but_not_read_back :
    let e : Ladder.Entry := { account := 1, name := .ofList (List.replicate 1048577 'a') }
    let front : Bytes := upToName ++ numberBytes 4 1048577 ++ [97]
    (∃ bytes, encode e = .ok bytes ∧ front <+: bytes) ∧
      decode (α := Ladder.Entry) 1 ⟨1, front⟩ = .error (.corrupt 281) ∧ ¬ ReadsBack e 1 [] := by
  intro e front
  have hsplit : bytesOf e = front ++ Text.Utf8.encode (.ofList (List.replicate 1048576 'a')) :=
    bytesOf_replicate 1048576 'a'
  have hdecode : decode (α := Ladder.Entry) 1 ⟨1, front⟩ = .error (.corrupt 281) := rfl
  refine ⟨⟨_, encode_eq e, _, hsplit.symm⟩, hdecode, fun hback => ?_⟩
  have hmissing := encode_replicate_ne_nil (by decide : 0 < 1048576) 'a'
  exact not_fits_of_front hsplit hmissing hdecode (readsBack_iff_fits.1 hback)

end RemoteConsole.Store
