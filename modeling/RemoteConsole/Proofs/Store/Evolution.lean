import RemoteConsole.Proofs.Store.Layout
import RemoteConsole.Store.Writer

namespace RemoteConsole.Store

/-- The lowest bytes of the number that is declared, as many as the field is wide, or the empty
value of a field without a width. -/
def IsDefault (f : Field) (v : Value) : Prop :=
  v.kind = f.kind ∧
    match f.kind.width? with
    | some width => v.bytes = (numberBytes 8 f.fallback.toNat).take width
    | none => v = .text "" ∨ v = .table .empty

/-- What comes back of the values of some fields: the value itself where the version has the field,
its default elsewhere. -/
inductive GivesBack (version : UInt8) : List Field → List Value → List Value → Prop
  | nil : GivesBack version [] [] []
  | held {f : Field} {v : Value} {fs : List Field} {vs ws : List Value}
      (hsince : f.since ≤ version) (rest : GivesBack version fs vs ws) :
      GivesBack version (f :: fs) (v :: vs) (v :: ws)
  | lacking {f : Field} {v w : Value} {fs : List Field} {vs ws : List Value}
      (hsince : version < f.since) (hdefault : IsDefault f w)
      (rest : GivesBack version fs vs ws) : GivesBack version (f :: fs) (v :: vs) (w :: ws)

theorem numberBytes_take {least width : Nat} (h : least ≤ width) (n : Nat) :
    (numberBytes width n).take least = numberBytes least n := by
  induction least generalizing width n with
  | zero => rfl
  | succ least ih =>
      cases width with
      | zero => omega
      | succ width => simp [numberBytes, ih (Nat.le_of_succ_le_succ h)]

theorem numberBytes_mod (width n : Nat) :
    numberBytes width (n % Nat.pow 256 width) = numberBytes width n := by
  induction width generalizing n with
  | zero => rfl
  | succ width ih =>
      have hpow : Nat.pow 256 (width + 1) = 256 * Nat.pow 256 width := Nat.mul_comm _ _
      rw [hpow, numberBytes, numberBytes, Nat.mod_mul_right_mod, Nat.mod_mul_right_div_self, ih]

theorem isDefault_absent (f : Field) : IsDefault f f.absent := by
  obtain ⟨name, kind, since, fallback⟩ := f
  have hcut (width : Nat) (h : width ≤ 8) :
      numberBytes width (fallback.toNat % Nat.pow 256 width) =
        (numberBytes 8 fallback.toNat).take width := by
    rw [numberBytes_mod, numberBytes_take h]
  cases kind with
  | byte => exact ⟨rfl, hcut 1 (by decide)⟩
  | word16 => exact ⟨rfl, hcut 2 (by decide)⟩
  | word32 => exact ⟨rfl, hcut 4 (by decide)⟩
  | word64 => exact ⟨rfl, hcut 8 (by decide)⟩
  | text => exact ⟨rfl, .inl rfl⟩
  | table => exact ⟨rfl, .inr rfl⟩

theorem givesBack_asRead {version : UInt8} {fs : List Field} {vs : List Value}
    (hkinds : vs.map Value.kind = fs.map Field.kind) :
    GivesBack version fs vs (asRead version fs vs) := by
  induction fs generalizing vs with
  | nil =>
      rw [List.map_eq_nil_iff.1 hkinds]
      exact .nil
  | cons f fs ih =>
      cases vs with
      | nil => simp at hkinds
      | cons v vs =>
          have hrest := ih (List.cons_eq_cons.1 hkinds).2
          by_cases hsince : version < f.since
          · rw [asRead, if_pos hsince]
            exact .lacking hsince (isDefault_absent f) hrest
          · rw [asRead, if_neg hsince]
            exact .held (UInt8.not_lt.1 hsince) hrest

theorem layout_append (version : UInt8) {fs : List Field} (gs : List Field) {vs : List Value}
    (ws : List Value) (hlength : vs.length = fs.length) :
    layout version (fs ++ gs) (vs ++ ws) = layout version fs vs ++ layout version gs ws := by
  induction fs generalizing vs with
  | nil =>
      rw [List.length_eq_zero_iff.1 hlength]
      rfl
  | cons f fs ih =>
      cases vs with
      | nil => simp at hlength
      | cons v vs =>
          have hrest := ih (Nat.succ_inj.1 hlength)
          simp only [List.cons_append, layout, hrest, List.append_assoc]

theorem layout_take_drop (version : UInt8) {fs : List Field} {vs : List Value}
    (hlength : vs.length = fs.length) (i : Nat) :
    layout version fs vs =
      layout version (fs.take i) (vs.take i) ++ layout version (fs.drop i) (vs.drop i) := by
  rw [← layout_append version _ _ (by simp [hlength]), List.take_append_drop,
    List.take_append_drop]

theorem kinds_take {fs : List Field} {vs : List Value}
    (hkinds : vs.map Value.kind = fs.map Field.kind) (i : Nat) :
    (vs.take i).map Value.kind = (fs.take i).map Field.kind := by
  rw [List.map_take, List.map_take, hkinds]

theorem Value.bytes_length_of_width {v : Value} {width : Nat} (h : v.kind.width? = some width) :
    v.bytes.length = width := by
  cases v with
  | byte n | word16 n | word32 n | word64 n =>
      rw [Value.bytes, numberBytes_length]
      exact Option.some.inj h
  | text s | table d => cases h

namespace Schema

theorem foldlM_widths_eq_some {version : UInt8} {fs : List Field} {vs : List Value}
    (hkinds : vs.map Value.kind = fs.map Field.kind) (start offset : Nat) :
    (fs.filter (·.since ≤ version)).foldlM (fun n f => f.kind.width?.map (n + ·)) start =
        some offset ↔
      (∀ f ∈ fs, f.since ≤ version → f.kind.width?.isSome) ∧
        offset = start + (layout version fs vs).length := by
  induction fs generalizing vs start with
  | nil =>
      constructor
      · intro h
        exact ⟨fun f hf => absurd hf List.not_mem_nil, (Option.some.inj h).symm⟩
      · rintro ⟨-, rfl⟩
        rfl
  | cons f fs ih =>
      cases vs with
      | nil => simp at hkinds
      | cons v vs =>
          obtain ⟨hkind, hkinds⟩ := List.cons_eq_cons.1 hkinds
          -- A field that the version lacks drops out of the fold and of the layout alike.
          by_cases hsince : f.since ≤ version
          · have hholds : ¬ version < f.since := UInt8.not_lt.2 hsince
            cases hwidth : f.kind.width? with
            | none => simp [hsince, hwidth]
            | some width =>
                have hlength := Value.bytes_length_of_width (hkind ▸ hwidth)
                simp [hsince, hwidth, ih hkinds, layout, hholds, hlength, Nat.add_assoc]
          · have hlacks : version < f.since := UInt8.not_le.1 hsince
            simp [hsince, ih hkinds, layout, hlacks]

theorem findIdx?_name {s : Schema} (hnames : (s.fields.map Field.name).Nodup) {i : Nat} {f : Field}
    (hf : s.fields[i]? = some f) : s.fields.findIdx? (·.name == f.name) = some i := by
  obtain ⟨hi, hget⟩ := List.getElem?_eq_some_iff.1 hf
  refine List.findIdx?_eq_some_iff_getElem.2 ⟨hi, by simp [hget], fun j hji => ?_⟩
  have hne := List.pairwise_iff_getElem.1 hnames j i (by rw [List.length_map]; omega)
    (by rwa [List.length_map]) hji
  simpa [hget] using hne

theorem fixedOffset?_eq {s : Schema} (hnames : (s.fields.map Field.name).Nodup) {i : Nat}
    {f : Field} (hf : s.fields[i]? = some f) (version : UInt8) :
    s.fixedOffset? f.name version =
      if version < f.since then none else fixedWidth? version (s.fields.take i) := by
  simp [fixedOffset?, findIdx?_name hnames hf, hf]

theorem fixedOffset?_eq_none {s : Schema} {name : String} (h : ∀ f ∈ s.fields, f.name ≠ name)
    (version : UInt8) : s.fixedOffset? name version = none := by
  have hidx : s.fields.findIdx? (·.name == name) = none := by simpa using h
  simp [fixedOffset?, hidx]

theorem fixedOffset?_eq_some_iff {s : Schema} (hnames : (s.fields.map Field.name).Nodup)
    {vs : List Value} (hkinds : vs.map Value.kind = s.fields.map Field.kind) {i : Nat} {f : Field}
    (hf : s.fields[i]? = some f) (version : UInt8) (offset : Nat) :
    s.fixedOffset? f.name version = some offset ↔
      (f.since ≤ version ∧
        ∀ g ∈ s.fields.take i, g.since ≤ version → g.kind.width?.isSome) ∧
      offset = (layout version (s.fields.take i) (vs.take i)).length := by
  rw [fixedOffset?_eq hnames hf]
  by_cases hsince : version < f.since
  · simp [hsince, UInt8.not_le.2 hsince]
  · rw [if_neg hsince, fixedWidth?, foldlM_widths_eq_some (kinds_take hkinds i), Nat.zero_add]
    simp [UInt8.not_lt.1 hsince]

def readerOf (s : Schema) (version : UInt8) (vs : List Value) (position : Nat) (suffix : Bytes) :
    Reader :=
  { schema := s, version, cursor := ⟨position, layout version s.fields vs ++ suffix⟩ }

/-- Reading all fields gives back the values and takes the layout, no more and no less. -/
def ReadsLayout (s : Schema) (version : UInt8) (vs : List Value) (position : Nat)
    (suffix : Bytes) : Prop :=
  ∃ ws r, Reader.readAll s.fields (s.readerOf version vs position suffix) = (.ok ws, r) ∧
    GivesBack version s.fields vs ws ∧
      r.cursor = ⟨position + (layout version s.fields vs).length, suffix⟩

/-- A field has an offset if the version has it and no field without a width before it. So many
bytes the reader has taken when it has read the fields before. -/
def OffsetsAgree (s : Schema) (version : UInt8) (vs : List Value) (position : Nat)
    (suffix : Bytes) : Prop :=
  (∀ name, (∀ f ∈ s.fields, f.name ≠ name) → s.fixedOffset? name version = none) ∧
    ∀ i f, s.fields[i]? = some f →
      ((s.fixedOffset? f.name version).isSome ↔
        f.since ≤ version ∧
          ∀ g ∈ s.fields.take i, g.since ≤ version → g.kind.width?.isSome) ∧
      ∃ ws r, Reader.readAll (s.fields.take i) (s.readerOf version vs position suffix) =
          (.ok ws, r) ∧
        ∀ offset, s.fixedOffset? f.name version = some offset →
          r.cursor = ⟨position + offset, (layout version s.fields vs ++ suffix).drop offset⟩

def WritesLayout (s : Schema) (vs : List Value) : Prop :=
  ∃ w, Writer.putAll { schema := s } ((s.fields.map Field.name).zip vs) = .ok w ∧
    w.finish = .ok (layout s.current s.fields vs)

theorem readAll_of_reads {s : Schema} {version : UInt8} {fs later : List Field} {bytes : Bytes}
    {ws : List Value} (hfields : s.fields = fs ++ later)
    (h : Reads (Cursor.fields version fs) bytes ws) (position : Nat) (rest : Bytes) :
    ∃ r, Reader.readAll fs { schema := s, version, cursor := ⟨position, bytes ++ rest⟩ } =
        (.ok ws, r) ∧ r.cursor = ⟨position + bytes.length, rest⟩ := by
  obtain ⟨visited, hread⟩ := Reader.readAll_eq fs [] later
    { schema := s, version, cursor := ⟨position, bytes ++ rest⟩ } hfields rfl
  rw [hread]
  simp only [h.whole]
  exact ⟨_, rfl, rfl⟩

variable {s : Schema} {version : UInt8} {vs : List Value}

theorem readsLayout (hkinds : vs.map Value.kind = s.fields.map Field.kind)
    (hfits : ∀ v ∈ vs, v.Fits) (position : Nat) (suffix : Bytes) :
    ReadsLayout s version vs position suffix := by
  obtain ⟨r, hread, hcursor⟩ := readAll_of_reads (List.append_nil _).symm
    (Cursor.reads_fields hkinds hfits) position suffix
  exact ⟨_, r, hread, givesBack_asRead hkinds, hcursor⟩

theorem offsetsAgree (hnames : (s.fields.map Field.name).Nodup)
    (hkinds : vs.map Value.kind = s.fields.map Field.kind) (hfits : ∀ v ∈ vs, v.Fits)
    (position : Nat) (suffix : Bytes) : OffsetsAgree s version vs position suffix := by
  refine ⟨fun name h => fixedOffset?_eq_none h version, fun i f hf => ⟨?_, ?_⟩⟩
  · rw [Option.isSome_iff_exists]
    simp [fixedOffset?_eq_some_iff hnames hkinds hf]
  · have hlength : vs.length = s.fields.length := by simpa using congrArg List.length hkinds
    have hlayout := layout_take_drop version hlength i
    have hreads : Reads (Cursor.fields version (s.fields.take i)) _ _ :=
      Cursor.reads_fields (kinds_take hkinds i) fun v hv => hfits v (List.mem_of_mem_take hv)
    obtain ⟨r, hread, hcursor⟩ := readAll_of_reads (List.take_append_drop i s.fields).symm hreads
      position (layout version (s.fields.drop i) (vs.drop i) ++ suffix)
    rw [← List.append_assoc, ← hlayout] at hread
    refine ⟨_, r, hread, fun offset hoffset => ?_⟩
    rw [hcursor, ((fixedOffset?_eq_some_iff hnames hkinds hf version offset).1 hoffset).2, hlayout,
      List.append_assoc, List.drop_left]

theorem writesLayout (hsince : ∀ f ∈ s.fields, f.since ≤ s.current)
    (hkinds : vs.map Value.kind = s.fields.map Field.kind) : WritesLayout s vs := by
  have hput := Writer.putAll_eq s.fields [] vs { schema := s } rfl rfl hkinds
  obtain ⟨hlayout, -⟩ := layout_and_asRead_of_holds_all hkinds hsince
  exact ⟨_, hput, by simp [Writer.finish, hlayout]⟩

/-- Reader, writer and offsets agree on every schema, whichever version a file has and whatever
values its records hold. -/
theorem every_schema_agrees_on_its_layouts (hnames : (s.fields.map Field.name).Nodup)
    (hsince : ∀ f ∈ s.fields, f.since ≤ s.current)
    (hkinds : vs.map Value.kind = s.fields.map Field.kind) (hfits : ∀ v ∈ vs, v.Fits)
    (position : Nat) (suffix : Bytes) :
    ReadsLayout s version vs position suffix ∧ OffsetsAgree s version vs position suffix ∧
      WritesLayout s vs :=
  ⟨readsLayout hkinds hfits position suffix, offsetsAgree hnames hkinds hfits position suffix,
    writesLayout hsince hkinds⟩

theorem every_schema_agrees_on_its_layouts_of_notes :
    let s : Schema := ⟨"notes", 2, 0, [⟨"flags", .word16, 0, 0⟩, ⟨"size", .byte, 2, 288⟩,
      ⟨"name", .text, 1, 0⟩, ⟨"tags", .table, 0, 0⟩]⟩
    let vs : List Value := [.word16 7, .byte 9, .text "é", .table (.ofPairs [("a", "b")])]
    ((s.fields.map Field.name).Nodup ∧ (∀ f ∈ s.fields, f.since ≤ s.current) ∧
      vs.map Value.kind = s.fields.map Field.kind ∧ ∀ v ∈ vs, v.Fits) ∧
    ReadsLayout s 0 vs 1 [255] ∧ OffsetsAgree s 0 vs 1 [255] ∧ WritesLayout s vs := by
  intro s vs
  have hnames : (s.fields.map Field.name).Nodup := by decide
  have hsince : ∀ f ∈ s.fields, f.since ≤ s.current := by decide
  have hfits : ∀ v ∈ vs, v.Fits := by decide
  exact ⟨⟨hnames, hsince, rfl, hfits⟩,
    every_schema_agrees_on_its_layouts hnames hsince rfl hfits 1 [255]⟩

end Schema

end RemoteConsole.Store
