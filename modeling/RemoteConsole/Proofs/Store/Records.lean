import RemoteConsole.Proofs.Store.Layout
import RemoteConsole.Store.RecordFile

namespace RemoteConsole.Store

/-- A type whose records a file can hold. What it does not hold is lost in `stored`. -/
class Storable (α : Type) [Record α] where
  stored : α → α
  signature_eq : Record.signature α = (Record.schema α).fields.map Field.signature
  kinds (r : α) : (Record.values r).map Value.kind = (Record.schema α).fields.map Field.kind
  ofValues_values (r : α) : Record.ofValues? (Record.values r) = some (stored r)
  since_le : ∀ f ∈ (Record.schema α).fields, f.since ≤ (Record.schema α).current
  oldest_holds : ∃ f ∈ (Record.schema α).fields, f.since ≤ (Record.schema α).oldest
  oldest_le : (Record.schema α).oldest ≤ (Record.schema α).current

/-- A type whose records are made of the values they give, so that no two lists of values make the
same record. -/
class Faithful (α : Type) [Record α] : Prop where
  values_of_ofValues {vs : List Value} {r : α} (h : Record.ofValues? vs = some r) :
    Record.values r = vs

/-- A type that makes a record of any values of the kinds that its schema declares. -/
class Complete (α : Type) [Record α] : Prop where
  isSome_ofValues {vs : List Value}
    (h : vs.map Value.kind = (Record.schema α).fields.map Field.kind) :
    (Record.ofValues? (α := α) vs).isSome

theorem map_kind_eq_cons {vs : List Value} {kind : FieldKind} {kinds : List FieldKind} :
    vs.map Value.kind = kind :: kinds ↔
      match kind with
      | .byte => ∃ n rest, vs = .byte n :: rest ∧ rest.map Value.kind = kinds
      | .word16 => ∃ n rest, vs = .word16 n :: rest ∧ rest.map Value.kind = kinds
      | .word32 => ∃ n rest, vs = .word32 n :: rest ∧ rest.map Value.kind = kinds
      | .word64 => ∃ n rest, vs = .word64 n :: rest ∧ rest.map Value.kind = kinds
      | .text => ∃ s rest, vs = .text s :: rest ∧ rest.map Value.kind = kinds
      | .table => ∃ d rest, vs = .table d :: rest ∧ rest.map Value.kind = kinds := by
  rcases vs with - | ⟨v, vs⟩
  · cases kind <;> simp
  · cases kind <;> cases v <;> simp [Value.kind, and_assoc]

def Fits {α : Type} [Record α] (r : α) : Prop :=
  ∀ v ∈ Record.values r, v.Fits

instance {α : Type} [Record α] : DecidablePred (Fits (α := α)) :=
  fun r => inferInstanceAs (Decidable (∀ v ∈ Record.values r, v.Fits))

def bytesOf {α : Type} [Record α] (r : α) : Bytes :=
  (Record.values r).flatMap Value.bytes

variable {α : Type} [Record α]

/-- The records from one cursor to another, each with its offset. -/
inductive Decodes (version : UInt8) : Cursor → List (Nat × α) → Cursor → Prop
  | nil (c : Cursor) : Decodes version c [] c
  | cons {c next behind : Cursor} {a : α} {read : List (Nat × α)}
      (head : decode version c = .ok (a, next)) (tail : Decodes version next read behind) :
      Decodes version c ((c.position, a) :: read) behind

/-- Why no record is read at a cursor: the bytes are used up, or they do not hold one. -/
inductive Ends (α : Type) [Record α] (version : UInt8) (c : Cursor) : Option Stop → Prop
  | done (hrest : c.rest = []) : Ends α version c none
  | torn {last : Nat} (hrest : c.rest ≠ [])
      (h : decode (α := α) version c = .error (.truncated last)) :
      Ends α version c (some (.torn c.position))
  | corrupt {e : Failure} (hrest : c.rest ≠ []) (h : decode (α := α) version c = .error e)
      (he : ∀ last, e ≠ .truncated last) : Ends α version c (some (.corrupt c.position e))

theorem Decodes.append {version : UInt8} {c between behind : Cursor} {xs ys : List (Nat × α)}
    (hx : Decodes version c xs between) (hy : Decodes version between ys behind) :
    Decodes version c (xs ++ ys) behind := by
  induction hx with
  | nil c => exact hy
  | cons head tail ih => exact .cons head (ih hy)

theorem decodes_flatMap {version : UInt8} {bytesFor : α → Bytes} {back : α → α} {records : List α}
    (h : ∀ r ∈ records, ∀ position rest, decode version ⟨position, bytesFor r ++ rest⟩ =
      .ok (back r, ⟨position + (bytesFor r).length, rest⟩)) (position : Nat) (rest : Bytes) :
    Decodes version ⟨position, records.flatMap bytesFor ++ rest⟩
      ((RecordFile.offsetsFrom position (records.map bytesFor)).zip (records.map back))
      ⟨position + (records.flatMap bytesFor).length, rest⟩ := by
  induction records generalizing position with
  | nil => exact .nil _
  | cons r rs ih =>
      have hrest := ih (fun q hq => h q (List.mem_cons_of_mem _ hq))
        (position + (bytesFor r).length)
      rw [List.flatMap_cons, List.append_assoc, List.length_append, ← Nat.add_assoc]
      exact .cons (h r List.mem_cons_self position _) hrest

section Storable

variable [Storable α]

theorem decode_eq (version : UInt8) (c : Cursor) :
    decode (α := α) version c =
      match c.fields version (Record.schema α).fields with
      | (.error e, _) => .error e
      | (.ok vs, behind) =>
        match Record.ofValues? vs with
        | none => .error (.schema (.unfinished (Record.schema α).name 0
            (Record.schema α).fields.length))
        | some a => .ok (a, behind) := by
  obtain ⟨visited, h⟩ := Reader.readAll_eq (Record.schema α).fields [] []
    { schema := Record.schema α, version, cursor := c } (List.append_nil _).symm rfl
  rw [Reader.readAll, ← Storable.signature_eq] at h
  simp only [decode, h]
  cases hfields : c.fields version (Record.schema α).fields with
  | mk result behind => cases result <;> rfl

theorem fields_of_decode {version : UInt8} {c behind : Cursor} {r : α}
    (h : decode version c = .ok (r, behind)) :
    ∃ vs, c.fields version (Record.schema α).fields = (.ok vs, behind) ∧
      Record.ofValues? vs = some r := by
  rw [decode_eq] at h
  split at h
  · cases h
  · rename_i vs next hfields
    split at h
    · cases h
    · rename_i a hvalues
      cases h
      exact ⟨vs, hfields, hvalues⟩

theorem decode_of_fields {version : UInt8} {c behind : Cursor} {vs : List Value} {r : α}
    (hfields : c.fields version (Record.schema α).fields = (.ok vs, behind))
    (hvalues : Record.ofValues? vs = some r) : decode version c = .ok (r, behind) := by
  simp only [decode_eq, hfields, hvalues]

theorem encode_eq (r : α) : encode r = .ok (bytesOf r) := by
  have h := Writer.putAll_eq (Record.schema α).fields [] (Record.values r)
    { schema := Record.schema α } rfl rfl (Storable.kinds r)
  have hnames : (Record.signature α).map Prod.snd = (Record.schema α).fields.map Field.name := by
    rw [Storable.signature_eq, List.map_map]
    rfl
  simp only [encode, hnames, h, Writer.finish]
  simp [bytesOf]

theorem encodeAll_eq (records : List α) :
    RecordFile.encodeAll records = .ok (records.map bytesOf) := by
  induction records with
  | nil => rfl
  | cons r rs ih => simp only [RecordFile.encodeAll, encode_eq, ih, List.map_cons]

theorem reads_record {r : α} (h : Fits r) :
    Reads (Cursor.fields (Record.schema α).current (Record.schema α).fields) (bytesOf r)
      (Record.values r) := by
  have hread : Reads (Cursor.fields (Record.schema α).current (Record.schema α).fields)
      (layout (Record.schema α).current (Record.schema α).fields (Record.values r))
      (asRead (Record.schema α).current (Record.schema α).fields (Record.values r)) :=
    Cursor.reads_fields (Storable.kinds r) h
  obtain ⟨hlayout, hvalues⟩ :=
    layout_and_asRead_of_holds_all (Storable.kinds r) (Storable.since_le (α := α))
  rwa [hlayout, hvalues] at hread

theorem decode_whole {r : α} (h : Fits r) (position : Nat) (rest : Bytes) :
    decode (Record.schema α).current ⟨position, bytesOf r ++ rest⟩ =
      .ok (Storable.stored r, ⟨position + (bytesOf r).length, rest⟩) := by
  exact decode_of_fields ((reads_record h).whole position rest) (Storable.ofValues_values r)

theorem decode_cut {r : α} (h : Fits r) (position : Nat) {part missing : Bytes}
    (hsplit : bytesOf r = part ++ missing) (hmissing : missing ≠ []) :
    ∃ last, decode (α := α) (Record.schema α).current ⟨position, part⟩ =
      .error (.truncated last) := by
  obtain ⟨last, c, hc⟩ := (reads_record h).cut position part missing hsplit hmissing
  exact ⟨last, by rw [decode_eq, hc]⟩

/-- A record takes at least one byte, its cursor moves by what it takes, and it is the same record
whatever follows. -/
theorem decode_takes {version : UInt8} (h : (Record.schema α).supports version)
    {c behind : Cursor} {a : α} (hdecode : decode version c = .ok (a, behind)) :
    ∃ taken, 1 ≤ taken.length ∧ c.rest = taken ++ behind.rest ∧
      behind.position = c.position + taken.length ∧ ∀ position rest,
        decode version ⟨position, taken ++ rest⟩ = .ok (a, ⟨position + taken.length, rest⟩) := by
  obtain ⟨f, hf, hsince⟩ := Storable.oldest_holds (α := α)
  have hle : f.since ≤ version := by
    simp only [Schema.supports, Bool.and_eq_true, decide_eq_true_eq] at h
    exact UInt8.le_trans hsince h.1
  obtain ⟨vs, hfields, hvalues⟩ := fields_of_decode hdecode
  obtain ⟨taken, htaken, hrest, hposition, hreads⟩ := Cursor.takes_fields hf hle hfields
  exact ⟨taken, htaken, hrest, hposition, fun position rest =>
    decode_of_fields (hreads.whole position rest) hvalues⟩

theorem decode_shorter {version : UInt8} (h : (Record.schema α).supports version)
    {c behind : Cursor} {a : α} (hdecode : decode version c = .ok (a, behind)) :
    behind.rest.length < c.rest.length := by
  obtain ⟨taken, htaken, hrest, -⟩ := decode_takes h hdecode
  rw [hrest, List.length_append]
  omega

/-- The bytes up to the last record that is read are those the cursor moved by, and they hold these
records whatever follows. -/
theorem Decodes.takes {version : UInt8} (h : (Record.schema α).supports version)
    {c behind : Cursor} {read : List (Nat × α)} (hread : Decodes version c read behind) :
    ∃ taken, c.rest = taken ++ behind.rest ∧ behind.position = c.position + taken.length ∧
      ∀ rest, Decodes version ⟨c.position, taken ++ rest⟩ read ⟨behind.position, rest⟩ := by
  induction hread with
  | nil c => exact ⟨[], rfl, rfl, fun rest => .nil _⟩
  | @cons c next behind a read head tail ih =>
      obtain ⟨xs, -, hxs, hp, hdecode⟩ := decode_takes h head
      obtain ⟨ys, hys, hq, hrest⟩ := ih
      refine ⟨xs ++ ys, ?_, ?_, fun rest => ?_⟩
      · rw [hxs, hys, List.append_assoc]
      · rw [hq, hp, List.length_append, Nat.add_assoc]
      · have hhead := hdecode c.position (ys ++ rest)
        rw [← hp] at hhead
        rw [List.append_assoc]
        exact .cons hhead (hrest rest)

theorem scanFrom_decodes {version : UInt8} (h : (Record.schema α).supports version) (fuel : Nat)
    (c : Cursor) (hfuel : c.rest.length ≤ fuel) :
    ∃ behind, Decodes version c (scanFrom (α := α) version fuel c).records behind ∧
      Ends α version behind (scanFrom (α := α) version fuel c).stop := by
  induction fuel generalizing c with
  | zero => exact ⟨c, .nil c, .done (List.length_eq_zero_iff.1 (Nat.le_zero.1 hfuel))⟩
  | succ fuel ih =>
      by_cases hrest : c.rest = []
      · simp only [scanFrom, hrest, List.isEmpty_nil, if_true]
        exact ⟨c, .nil c, .done hrest⟩
      · have hempty : c.rest.isEmpty = false := by simpa using hrest
        cases hdecode : decode (α := α) version c with
        | error e =>
            cases e with
            | truncated last =>
                simp only [scanFrom, hempty, hdecode]
                exact ⟨c, .nil c, .torn hrest hdecode⟩
            | io | corrupt | unsupported | schema | outOfRange =>
                simp only [scanFrom, hempty, hdecode]
                exact ⟨c, .nil c, .corrupt hrest hdecode (by simp)⟩
        | ok result =>
            obtain ⟨a, next⟩ := result
            have hshorter := decode_shorter h hdecode
            obtain ⟨behind, hread, hends⟩ := ih next (by omega)
            simp only [scanFrom, hempty, hdecode]
            exact ⟨behind, .cons hdecode hread, hends⟩

theorem scanFrom_eq {version : UInt8} (h : (Record.schema α).supports version) {fuel : Nat}
    {c behind : Cursor} {read : List (Nat × α)} {stop : Option Stop}
    (hread : Decodes version c read behind) (hends : Ends α version behind stop)
    (hfuel : c.rest.length ≤ fuel) : scanFrom version fuel c = ⟨read, stop⟩ := by
  induction hread generalizing fuel with
  | nil c =>
      cases fuel with
      | zero =>
          have hrest : c.rest = [] := List.length_eq_zero_iff.1 (Nat.le_zero.1 hfuel)
          cases hends with
          | done => rfl
          | torn hne | corrupt hne => exact absurd hrest hne
      | succ fuel =>
          cases hends with
          | done hrest => simp [scanFrom, hrest]
          | torn hrest hdecode => simp [scanFrom, hrest, hdecode]
          | corrupt hrest hdecode he => simp [scanFrom, hrest, hdecode]
  | @cons c next behind a read head tail ih =>
      have hshorter := decode_shorter h head
      cases fuel with
      | zero => omega
      | succ fuel =>
          have hrest : c.rest ≠ [] := List.ne_nil_of_length_pos (by omega)
          have htail : scanFrom version fuel next = ⟨read, stop⟩ := ih hends (by omega)
          simp [scanFrom, hrest, head, htail]

theorem ends_unique {version : UInt8} (h : (Record.schema α).supports version)
    {c behind behind' : Cursor} {read read' : List (Nat × α)} {stop stop' : Option Stop}
    (hread : Decodes version c read behind) (hends : Ends α version behind stop)
    (hread' : Decodes version c read' behind') (hends' : Ends α version behind' stop') :
    read = read' ∧ stop = stop' := by
  have hscan : scanFrom version c.rest.length c = ⟨read, stop⟩ :=
    scanFrom_eq h hread hends (Nat.le_refl _)
  rw [scanFrom_eq h hread' hends' (Nat.le_refl _)] at hscan
  cases hscan
  exact ⟨rfl, rfl⟩

theorem supports_current : (Record.schema α).supports (Record.schema α).current = true := by
  simp [Schema.supports, Storable.oldest_le]

def placed (position : Nat) (records : List α) : List (Nat × α) :=
  (RecordFile.offsetsFrom position (records.map bytesOf)).zip (records.map Storable.stored)

theorem offsetsFrom_length (position : Nat) (parts : List Bytes) :
    (RecordFile.offsetsFrom position parts).length = parts.length := by
  induction parts generalizing position with
  | nil => rfl
  | cons b bs ih => simp [RecordFile.offsetsFrom, ih]

theorem placed_offsets (position : Nat) (records : List α) :
    (placed position records).map Prod.fst =
      RecordFile.offsetsFrom position (records.map bytesOf) :=
  List.map_fst_zip (by simp [offsetsFrom_length])

theorem placed_records (position : Nat) (records : List α) :
    (placed position records).map Prod.snd = records.map Storable.stored :=
  List.map_snd_zip (by simp [offsetsFrom_length])

theorem decodes_placed {records : List α} (h : ∀ r ∈ records, Fits r) (position : Nat)
    (rest : Bytes) :
    Decodes (Record.schema α).current ⟨position, records.flatMap bytesOf ++ rest⟩
      (placed position records) ⟨position + (records.flatMap bytesOf).length, rest⟩ :=
  decodes_flatMap (fun r hr => decode_whole (h r hr)) position rest

theorem scan_torn {records : List α} {r : α} (h : ∀ q ∈ records, Fits q) (hr : Fits r)
    {part missing : Bytes} (hsplit : bytesOf r = part ++ missing) (hpart : part ≠ [])
    (hmissing : missing ≠ []) :
    scan (Record.schema α).current (records.flatMap bytesOf ++ part) =
      ⟨placed headerLength records,
        some (.torn (headerLength + (records.flatMap bytesOf).length))⟩ := by
  obtain ⟨last, hcut⟩ := decode_cut hr (headerLength + (records.flatMap bytesOf).length) hsplit
    hmissing
  exact scanFrom_eq supports_current (decodes_placed h headerLength part) (.torn hpart hcut)
    (Nat.le_refl _)

section Faithful

variable [Faithful α]

theorem values_stored (r : α) : Record.values (Storable.stored r) = Record.values r :=
  Faithful.values_of_ofValues (Storable.ofValues_values r)

theorem stored_of_ofValues {vs : List Value} {r : α} (h : Record.ofValues? vs = some r) :
    Storable.stored r = r := by
  have hback := Storable.ofValues_values r
  rw [Faithful.values_of_ofValues h, h] at hback
  exact (Option.some.inj hback).symm

theorem stored_of_decode {version : UInt8} {c behind : Cursor} {r : α}
    (h : decode version c = .ok (r, behind)) : Storable.stored r = r := by
  obtain ⟨vs, -, hvalues⟩ := fields_of_decode h
  exact stored_of_ofValues hvalues

theorem Decodes.stored {version : UInt8} {c behind : Cursor} {read : List (Nat × α)}
    (h : Decodes version c read behind) :
    (read.map Prod.snd).map Storable.stored = read.map Prod.snd := by
  induction h with
  | nil c => rfl
  | cons head tail ih => rw [List.map_cons, List.map_cons, stored_of_decode head, ih]

end Faithful

end Storable

end RemoteConsole.Store
