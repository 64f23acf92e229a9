import RemoteConsole.Proofs.Ban.Entry
import RemoteConsole.Proofs.Ladder.Entry
import RemoteConsole.Proofs.Store.Parts
import RemoteConsole.Proofs.Store.Shortage

namespace RemoteConsole.Store

namespace Cursor

variable {version : UInt8} {f : Field} {fs : List Field} {c behind : Cursor}

theorem value_of_field_error {e : Failure} (h : c.field version f = (.error e, behind)) :
    c.value f.kind = (.error e, behind) := by
  rw [field] at h
  split at h
  · cases h
  · exact h

theorem kind_field {v : Value} (h : c.field version f = (.ok v, behind)) : v.kind = f.kind := by
  rw [field] at h
  split at h
  · cases h
    exact kind_ofNumber f.kind f.fallback.toNat
  · exact kind_value h

theorem kinds_fields {vs : List Value} (h : c.fields version fs = (.ok vs, behind)) :
    vs.map Value.kind = fs.map Field.kind := by
  induction fs generalizing c vs with
  | nil =>
      cases h
      rfl
  | cons f fs ih =>
      obtain ⟨v, between, hfield, hrest⟩ := ReadResult.andThen_eq_ok h
      obtain ⟨ws, last, hfields, hcons⟩ := ReadResult.andThen_eq_ok hrest
      cases hcons
      rw [List.map_cons, List.map_cons, kind_field hfield, ih hfields]

end Cursor

namespace Reader

/-- The first read that fails, and the reader that is asked for it. -/
def stuck? : List (FieldKind × String) → Reader → Option ((FieldKind × String) × Reader)
  | [], _ => none
  | asked :: later, r =>
    match r.read asked.1 asked.2 with
    | (.error _, _) => some (asked, r)
    | (.ok _, r) => stuck? later r

/-- A read of a field in its place fails, and bytes are said to be missing if they are. -/
structure Fails (asked : FieldKind × String) (r : Reader) (e : Failure) : Prop where
  read : (r.read asked.1 asked.2).1 = .error e
  torn : (∃ last, e = .truncated last) ↔ RunsOut asked.1 r.cursor.rest
  ofBytes : e.OfBytes

theorem fails_of_field {r : Reader} {f : Field} {e : Failure} {behind : Cursor}
    (hf : r.schema.fields[r.visited]? = some f)
    (h : r.cursor.field r.version f = (.error e, behind)) : Fails f.signature r e := by
  have hvalue := Cursor.value_of_field_error h
  have htorn := Cursor.torn_value f.kind r.cursor
  have hbytes := Cursor.failsOfBytes_value f.kind r.cursor
  simp only [ReadResult.Torn, ReadResult.FailsOfBytes, hvalue, Except.error.injEq] at htorn hbytes
  exact ⟨by rw [Field.signature, read_eq hf, h], htorn, hbytes e rfl⟩

/-- Along the schema, of which the fields `before` have been read, every read is of the field in its
place, so only its bytes can make it fail. -/
theorem stuck?_of_error (fs before : List Field) {r last : Reader} {e : Failure}
    (h : r.schema.fields = before ++ fs) (hvisited : r.visited = before.length)
    (herror : readAll fs r = (.error e, last)) :
    ∃ asked stuck, stuck? (fs.map Field.signature) r = some (asked, stuck) ∧
      Fails asked stuck e := by
  induction fs generalizing before r with
  | nil => cases herror
  | cons f fs ih =>
      have hf : r.schema.fields[r.visited]? = some f := by simp [h, hvisited]
      have hread := read_eq hf
      simp only [readAll, List.map_cons, Field.signature, readEach, stuck?] at herror ⊢
      cases hfield : r.cursor.field r.version f with
      | mk result behind =>
          rw [hfield] at hread
          rw [hread] at herror ⊢
          cases result with
          | error e' =>
              cases herror
              exact ⟨_, r, rfl, fails_of_field hf hfield⟩
          | ok v =>
              refine ih (before ++ [f]) (by simp [h]) (by simp [hvisited]) ?_
              simp only at herror
              split at herror
              · rename_i hrest
                cases herror
                exact hrest
              · cases herror

end Reader

variable {α : Type} [Record α] {version : UInt8} {c : Cursor}

def readerAt (α : Type) [Record α] (version : UInt8) (c : Cursor) : Reader :=
  { schema := Record.schema α, version, cursor := c }

/-- The loop ends at a cursor: behind the last byte, or at a record that is torn if its first read
that fails runs out of bytes, and that has an impossible length there otherwise. -/
inductive StopsAt (α : Type) [Record α] (version : UInt8) (c : Cursor) : Option Stop → Prop
  | finished (hrest : c.rest = []) : StopsAt α version c none
  | torn {asked : FieldKind × String} {r : Reader} (hrest : c.rest ≠ [])
      (hstuck : Reader.stuck? (Record.signature α) (readerAt α version c) = some (asked, r))
      (hout : RunsOut asked.1 r.cursor.rest) : StopsAt α version c (some (.torn c.position))
  | corrupt {asked : FieldKind × String} {r : Reader} {place : Nat} (hrest : c.rest ≠ [])
      (hstuck : Reader.stuck? (Record.signature α) (readerAt α version c) = some (asked, r))
      (hout : ¬ RunsOut asked.1 r.cursor.rest)
      (hread : (r.read asked.1 asked.2).1 = .error (.corrupt place)) :
      StopsAt α version c (some (.corrupt c.position (.corrupt place)))

/-- The loop over a body takes it apart into records and a rest. -/
structure Partitioned (α : Type) [Record α] (version : UInt8) (body : Bytes) : Prop where
  progress {c behind : Cursor} {a : α} (h : decode version c = .ok (a, behind)) :
    ∃ taken, taken ≠ [] ∧ c.rest = taken ++ behind.rest ∧
      behind.position = c.position + taken.length
  bounded {read : List (Nat × α)} {behind : Cursor}
    (h : Decodes version ⟨headerLength, body⟩ read behind) : read.length ≤ body.length
  ended {rounds : Nat} (h : body.length ≤ rounds) :
    scanFrom (α := α) version rounds ⟨headerLength, body⟩ = scan version body
  parts : ∃ parts rest, body = parts.flatten ++ rest ∧
    (scan (α := α) version body).records.map Prod.fst =
      RecordFile.offsetsFrom headerLength parts ∧
    List.Forall₂ (Image version) parts ((scan (α := α) version body).records.map Prod.snd) ∧
    StopsAt α version ⟨headerLength + parts.flatten.length, rest⟩ (scan (α := α) version body).stop
  inPlace (c : Cursor) (m : Mismatch) :
    (Reader.readEach (Record.signature α) (readerAt α version c)).1 ≠ .error (.schema m) ∧
      decode (α := α) version c ≠ .error (.schema m)

section Storable

variable [Storable α]

theorem fails_of_readEach {e : Failure} {last : Reader}
    (h : Reader.readEach (Record.signature α) (readerAt α version c) = (.error e, last)) :
    ∃ asked stuck,
      Reader.stuck? (Record.signature α) (readerAt α version c) = some (asked, stuck) ∧
        Reader.Fails asked stuck e := by
  rw [Storable.signature_eq] at h ⊢
  exact Reader.stuck?_of_error _ [] (List.nil_append _).symm rfl h

theorem Decodes.length_le (h : (Record.schema α).supports version) {behind : Cursor}
    {read : List (Nat × α)} (hread : Decodes version c read behind) :
    read.length + behind.rest.length ≤ c.rest.length := by
  induction hread with
  | nil c => simp
  | cons head tail ih =>
      have hshorter := decode_shorter h head
      rw [List.length_cons]
      omega

variable [Complete α]

theorem readEach_of_decode_error {e : Failure} (h : decode (α := α) version c = .error e) :
    ∃ last, Reader.readEach (Record.signature α) (readerAt α version c) = (.error e, last) := by
  obtain ⟨visited, hread⟩ := Reader.readAll_eq (Record.schema α).fields [] []
    (readerAt α version c) (List.append_nil _).symm rfl
  rw [Reader.readAll, ← Storable.signature_eq] at hread
  rw [hread]
  rw [decode_eq] at h
  cases hfields : c.fields version (Record.schema α).fields with
  | mk result behind =>
      cases result with
      | error e' =>
          rw [hfields] at h
          cases h
          exact ⟨_, by rw [readerAt, hfields]⟩
      | ok vs =>
          have hmade := Complete.isSome_ofValues (α := α) (Cursor.kinds_fields hfields)
          obtain ⟨a, ha⟩ := Option.isSome_iff_exists.1 hmade
          simp [hfields, ha] at h

theorem fails_of_decode {e : Failure} (h : decode (α := α) version c = .error e) :
    ∃ asked stuck,
      Reader.stuck? (Record.signature α) (readerAt α version c) = some (asked, stuck) ∧
        Reader.Fails asked stuck e := by
  obtain ⟨last, hread⟩ := readEach_of_decode_error h
  exact fails_of_readEach hread

theorem Ends.stopsAt {stop : Option Stop} (h : Ends α version c stop) :
    StopsAt α version c stop := by
  cases h with
  | done hrest => exact .finished hrest
  | torn hrest hdecode =>
      obtain ⟨asked, stuck, hstuck, hfails⟩ := fails_of_decode hdecode
      exact .torn hrest hstuck (hfails.torn.1 ⟨_, rfl⟩)
  | @corrupt e hrest hdecode he =>
      obtain ⟨asked, stuck, hstuck, hfails⟩ := fails_of_decode hdecode
      have hout : ¬ RunsOut asked.1 stuck.cursor.rest := fun hout =>
        (hfails.torn.2 hout).elim he
      cases e with
      | corrupt place => exact .corrupt hrest hstuck hout hfails.read
      | truncated last => exact absurd rfl (he last)
      | io | unsupported | schema | outOfRange => exact hfails.ofBytes.elim

theorem partitioned (h : (Record.schema α).supports version) (body : Bytes) :
    Partitioned α version body where
  progress hdecode := by
    obtain ⟨taken, htaken, hrest, hposition, -⟩ := decode_takes h hdecode
    exact ⟨taken, List.length_pos_iff.1 htaken, hrest, hposition⟩
  bounded hread := by
    have hlength := hread.length_le h
    simp only at hlength
    omega
  ended {rounds} hrounds := by
    obtain ⟨behind, hread, hends⟩ :=
      scanFrom_decodes (α := α) h body.length ⟨headerLength, body⟩ (Nat.le_refl _)
    exact scanFrom_eq h hread hends hrounds
  parts := by
    obtain ⟨⟨position, rest⟩, hread, hends⟩ :=
      scanFrom_decodes (α := α) h body.length ⟨headerLength, body⟩ (Nat.le_refl _)
    obtain ⟨parts, hbody, rfl, hoffsets, himages⟩ := hread.images h
    exact ⟨parts, rest, hbody, hoffsets, himages, hends.stopsAt⟩
  inPlace c m := by
    refine ⟨fun hread => ?_, fun hdecode => ?_⟩
    · obtain ⟨asked, stuck, -, hfails⟩ := fails_of_readEach (Prod.ext hread rfl)
      exact hfails.ofBytes
    · obtain ⟨asked, stuck, -, hfails⟩ := fails_of_decode hdecode
      exact hfails.ofBytes

end Storable

/-- Whatever bytes stand in a file of a version that is supported, the loop over them ends and
partitions them. -/
theorem files_are_partitioned_into_records (body : Bytes) :
    (∀ version : UInt8, 3 ≤ version → version ≤ 5 → Partitioned Ban.Entry version body) ∧
      ∀ version : UInt8, version ≤ 1 → Partitioned Ladder.Entry version body := by
  refine ⟨fun version hlow hhigh => partitioned ?_ body, fun version hhigh => partitioned ?_ body⟩
  · simp only [Schema.supports, Bool.and_eq_true, decide_eq_true_eq]
    exact ⟨hlow, hhigh⟩
  · simp only [Schema.supports, Bool.and_eq_true, decide_eq_true_eq]
    exact ⟨UInt8.zero_le, hhigh⟩

theorem files_are_partitioned_into_records_of_old_files :
    (∃ body, (3 ≤ (3 : UInt8) ∧ (3 : UInt8) ≤ 5 ∧ Partitioned Ban.Entry 3 body) ∧
      ((scan 3 body : Scan Ban.Entry).records.map Prod.fst,
        (scan 3 body : Scan Ban.Entry).stop) = ([1], some (.corrupt 55 (.corrupt 85)))) ∧
    ∃ body, ((0 : UInt8) ≤ 1 ∧ Partitioned Ladder.Entry 0 body) ∧
      ((scan 0 body : Scan Ladder.Entry).records.map Prod.fst,
        (scan 0 body : Scan Ladder.Entry).stop) = ([1], some (.torn 145)) := by
  refine ⟨⟨List.replicate 84 0 ++ List.replicate 4 255, ⟨by decide, by decide, ?_⟩, ?_⟩,
    ⟨List.replicate 145 0, ⟨by decide, ?_⟩, ?_⟩⟩
  · exact (files_are_partitioned_into_records _).1 3 (by decide) (by decide)
  · decide +kernel
  · exact (files_are_partitioned_into_records _).2 0 (by decide)
  · decide +kernel

end RemoteConsole.Store
