import RemoteConsole.Proofs.Store.Reading
import RemoteConsole.Store.Record

namespace RemoteConsole.Store

namespace Cursor

def field (version : UInt8) (f : Field) (c : Cursor) : ReadResult Value :=
  if version < f.since then (.ok f.absent, c) else c.value f.kind

def fields (version : UInt8) : List Field → Cursor → ReadResult (List Value)
  | [], c => (.ok [], c)
  | f :: fs, c =>
      ReadResult.andThen (c.field version f) fun v c =>
        ReadResult.andThen (fields version fs c) fun vs c => (.ok (v :: vs), c)

end Cursor

def layout (version : UInt8) : List Field → List Value → Bytes
  | f :: fs, v :: vs => (if version < f.since then [] else v.bytes) ++ layout version fs vs
  | _, _ => []

/-- The values of a record as a version gives them back. -/
def asRead (version : UInt8) : List Field → List Value → List Value
  | f :: fs, v :: vs => (if version < f.since then f.absent else v) :: asRead version fs vs
  | _, _ => []

namespace Cursor

variable {version : UInt8} {f : Field} {fs : List Field}

theorem field_of_lacks (h : version < f.since) :
    Cursor.field version f = fun c => (.ok f.absent, c) := by
  funext c
  exact if_pos h

theorem field_of_holds (h : ¬ version < f.since) :
    Cursor.field version f = fun c => c.value f.kind := by
  funext c
  exact if_neg h

theorem reads_field {v : Value} (hkind : v.kind = f.kind) (hfits : v.Fits) :
    Reads (Cursor.field version f) (if version < f.since then [] else v.bytes)
      (if version < f.since then f.absent else v) := by
  by_cases h : version < f.since
  · rw [if_pos h, if_pos h, field_of_lacks h]
    exact Reads.pure f.absent
  · rw [if_neg h, if_neg h, field_of_holds h, ← hkind]
    exact reads_value hfits

theorem reads_fields_cons {v : Value} {vs : List Value} {xs ys : Bytes}
    (hf : Reads (Cursor.field version f) xs v) (hfs : Reads (Cursor.fields version fs) ys vs) :
    Reads (Cursor.fields version (f :: fs)) (xs ++ ys) (v :: vs) :=
  hf.andThen (g := fun v c => (Cursor.fields version fs c).andThen fun vs c => (.ok (v :: vs), c))
    (hfs.map (List.cons _))

theorem reads_fields {vs : List Value} (hkinds : vs.map Value.kind = fs.map Field.kind)
    (hfits : ∀ v ∈ vs, v.Fits) :
    Reads (Cursor.fields version fs) (layout version fs vs) (asRead version fs vs) := by
  induction fs generalizing vs with
  | nil =>
      rw [List.map_eq_nil_iff.1 hkinds]
      exact Reads.pure []
  | cons f fs ih =>
      cases vs with
      | nil => simp at hkinds
      | cons v vs =>
          obtain ⟨hkind, hkinds⟩ := List.cons_eq_cons.1 hkinds
          have hrest := ih hkinds fun w hw => hfits w (List.mem_cons_of_mem _ hw)
          exact reads_fields_cons (reads_field hkind (hfits v List.mem_cons_self)) hrest

theorem fields_append (fs gs : List Field) (c : Cursor) :
    Cursor.fields version (fs ++ gs) c =
      (Cursor.fields version fs c).andThen fun vs c =>
        (Cursor.fields version gs c).andThen fun ws c => (.ok (vs ++ ws), c) := by
  induction fs generalizing c with
  | nil =>
      simp only [List.nil_append, Cursor.fields, ReadResult.andThen]
      cases Cursor.fields version gs c with
      | mk result behind => cases result <;> rfl
  | cons f fs ih =>
      simp only [List.cons_append, Cursor.fields, ih, ReadResult.andThen_assoc]
      rfl

theorem reads_fields_append {gs : List Field} {vs ws : List Value} {xs ys : Bytes}
    (hf : Reads (Cursor.fields version fs) xs vs) (hg : Reads (Cursor.fields version gs) ys ws) :
    Reads (Cursor.fields version (fs ++ gs)) (xs ++ ys) (vs ++ ws) := by
  have h := hf.andThen (g := fun vs c =>
    (Cursor.fields version gs c).andThen fun ws c => (.ok (vs ++ ws), c)) (hg.map (vs ++ ·))
  rwa [← funext (fields_append fs gs)] at h

theorem takes_field (h : f.since ≤ version) : Takes 1 (Cursor.field version f) := by
  rw [field_of_holds (UInt8.not_lt.2 h)]
  exact takes_value f.kind

theorem takes_field_any (version : UInt8) (f : Field) : Takes 0 (Cursor.field version f) := by
  by_cases h : version < f.since
  · rw [field_of_lacks h]
    exact Takes.pure f.absent
  · exact (takes_field (UInt8.not_lt.1 h)).mono (Nat.zero_le 1)

theorem takes_fields_any (version : UInt8) (fs : List Field) :
    Takes 0 (Cursor.fields version fs) := by
  induction fs with
  | nil => exact Takes.pure []
  | cons f fs ih =>
      exact (takes_field_any version f).andThen fun v => ih.andThen fun vs => Takes.pure (v :: vs)

theorem takes_fields (hf : f ∈ fs) (hsince : f.since ≤ version) :
    Takes 1 (Cursor.fields version fs) := by
  induction fs with
  | nil => cases hf
  | cons g gs ih =>
      rcases List.mem_cons.1 hf with rfl | hf
      · exact (takes_field hsince).andThen fun v =>
          (takes_fields_any version gs).andThen fun vs => Takes.pure (v :: vs)
      · have h := (takes_field_any version g).andThen fun v =>
          (ih hf).andThen fun vs => Takes.pure (v :: vs)
        exact h.mono (by decide)

end Cursor

theorem layout_and_asRead_of_holds_all {version : UInt8} {fs : List Field} {vs : List Value}
    (hkinds : vs.map Value.kind = fs.map Field.kind) (hsince : ∀ f ∈ fs, f.since ≤ version) :
    layout version fs vs = vs.flatMap Value.bytes ∧ asRead version fs vs = vs := by
  induction fs generalizing vs with
  | nil =>
      rw [List.map_eq_nil_iff.1 hkinds]
      exact ⟨rfl, rfl⟩
  | cons f fs ih =>
      cases vs with
      | nil => simp at hkinds
      | cons v vs =>
          have hf : ¬ version < f.since := UInt8.not_lt.2 (hsince f List.mem_cons_self)
          obtain ⟨hlayout, hread⟩ := ih (List.cons_eq_cons.1 hkinds).2 fun g hg =>
            hsince g (List.mem_cons_of_mem _ hg)
          rw [layout, asRead, if_neg hf, if_neg hf, hlayout, hread, List.flatMap_cons]
          exact ⟨rfl, rfl⟩

namespace Reader

theorem read_eq {r : Reader} {f : Field} (h : r.schema.fields[r.visited]? = some f) :
    r.read f.kind f.name =
      ((r.cursor.field r.version f).1,
        { r with cursor := (r.cursor.field r.version f).2, visited := r.visited + 1 }) := by
  simp only [read, h, ne_eq, not_true_eq_false, or_self, if_false, Cursor.field]
  split <;> rfl

/-- Reading the next fields, by their names, is reading their values from the cursor. -/
theorem readAll_eq (fs before later : List Field) (r : Reader)
    (h : r.schema.fields = before ++ (fs ++ later)) (hvisited : r.visited = before.length) :
    ∃ visited, readAll fs r = ((r.cursor.fields r.version fs).1,
      { r with cursor := (r.cursor.fields r.version fs).2, visited }) := by
  induction fs generalizing before r with
  | nil => exact ⟨r.visited, rfl⟩
  | cons f fs ih =>
      have hf : r.schema.fields[r.visited]? = some f := by simp [h, hvisited]
      simp only [readAll, List.map_cons, Field.signature, readEach, read_eq hf, Cursor.fields]
      cases hfield : r.cursor.field r.version f with
      | mk result behind =>
          cases result with
          | error e => exact ⟨_, rfl⟩
          | ok v =>
              obtain ⟨visited, hrest⟩ := ih (before ++ [f])
                { r with cursor := behind, visited := r.visited + 1 } (by simp [h])
                (by simp [hvisited])
              rw [readAll] at hrest
              simp only [ReadResult.andThen, hrest]
              cases hfs : behind.fields r.version fs with
              | mk result last => cases result <;> exact ⟨visited, rfl⟩

end Reader

namespace Writer

theorem putAll_eq (fs before : List Field) (vs : List Value) (w : Writer)
    (h : w.schema.fields = before ++ fs) (hvisited : w.visited = before.length)
    (hkinds : vs.map Value.kind = fs.map Field.kind) :
    w.putAll ((fs.map Field.name).zip vs) =
      .ok { w with
        bytes := w.bytes ++ vs.flatMap Value.bytes
        visited := w.schema.fields.length } := by
  induction fs generalizing before vs w with
  | nil =>
      have hall : w.schema.fields.length = w.visited := by simp [h, hvisited]
      rw [List.map_eq_nil_iff.1 hkinds, hall]
      simp [putAll]
  | cons f fs ih =>
      cases vs with
      | nil => simp at hkinds
      | cons v vs =>
          obtain ⟨hkind, hkinds⟩ := List.cons_eq_cons.1 hkinds
          have hf : w.schema.fields[w.visited]? = some f := by simp [h, hvisited]
          have hput : w.put f.name v =
              .ok { w with bytes := w.bytes ++ v.bytes, visited := w.visited + 1 } := by
            simp [put, write, advance, hf, hkind]
          have hrest := ih (before ++ [f]) vs
            { w with bytes := w.bytes ++ v.bytes, visited := w.visited + 1 } (by simp [h])
            (by simp [hvisited]) hkinds
          simp only [List.map_cons, List.zip_cons_cons, putAll, hput, hrest, List.flatMap_cons,
            List.append_assoc]

end Writer

end RemoteConsole.Store
