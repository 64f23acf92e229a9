import Mathlib.Data.List.Forall2
import RemoteConsole.Proofs.Store.Spacing

namespace RemoteConsole.Store

theorem offsetsFrom_of_lengths {xs ys : List Bytes} (h : xs.map List.length = ys.map List.length)
    (position : Nat) : RecordFile.offsetsFrom position xs = RecordFile.offsetsFrom position ys := by
  induction xs generalizing ys position with
  | nil => rw [List.map_eq_nil_iff.1 h.symm]
  | cons x xs ih =>
      cases ys with
      | nil => cases h
      | cons y ys =>
          obtain ⟨hlength, hrest⟩ := List.cons_eq_cons.1 h
          rw [RecordFile.offsetsFrom, RecordFile.offsetsFrom, ih hrest, hlength]

theorem lengths_set {parts : List Bytes} {index : Nat} {part other : Bytes}
    (hpart : parts[index]? = some part) (hlength : other.length = part.length) :
    (parts.set index other).map List.length = parts.map List.length := by
  obtain ⟨hindex, rfl⟩ := List.getElem?_eq_some_iff.1 hpart
  rw [List.map_set, hlength, ← List.map_set, List.set_getElem_self]

theorem flatten_at {parts : List Bytes} {index : Nat} {part : Bytes}
    (hpart : parts[index]? = some part) (version : UInt8) :
    ∃ before behind, before.length = boundary parts index ∧
      version :: parts.flatten = before ++ (part ++ behind) ∧
      ∀ other, version :: (parts.set index other).flatten = before ++ (other ++ behind) := by
  obtain ⟨hindex, hget⟩ := List.getElem?_eq_some_iff.1 hpart
  have hset (other : Bytes) : parts.set index other =
      parts.take index ++ other :: parts.drop (index + 1) :=
    List.set_eq_take_append_cons_drop ▸ if_pos hindex
  have hsame : parts.set index part = parts := by rw [← hget, List.set_getElem_self]
  have hother (other : Bytes) : version :: (parts.set index other).flatten =
      (version :: (parts.take index).flatten) ++ (other ++ (parts.drop (index + 1)).flatten) := by
    rw [hset, List.flatten_append, List.flatten_cons, List.cons_append]
  refine ⟨version :: (parts.take index).flatten, (parts.drop (index + 1)).flatten, ?_, ?_, hother⟩
  · rw [boundary, headerLength, List.length_cons, Nat.add_comm]
  · rw [← hother part, hsame]

theorem exists_part_of_ne {xs ys : List Bytes} (h : xs.map List.length = ys.map List.length)
    {version : UInt8} {place : Nat}
    (hne : (version :: xs.flatten)[place]? ≠ (version :: ys.flatten)[place]?) :
    ∃ i x y k, xs[i]? = some x ∧ ys[i]? = some y ∧ x[k]? ≠ y[k]? ∧ place = boundary xs i + k := by
  cases place with
  | zero => exact absurd rfl hne
  | succ place =>
      simp only [List.getElem?_cons_succ] at hne
      induction xs generalizing ys place with
      | nil =>
          rw [List.map_eq_nil_iff.1 h.symm] at hne
          exact absurd rfl hne
      | cons x xs ih =>
          cases ys with
          | nil => cases h
          | cons y ys =>
              obtain ⟨hlength, hrest⟩ := List.cons_eq_cons.1 h
              rw [List.flatten_cons, List.flatten_cons] at hne
              by_cases hplace : place < x.length
              · rw [List.getElem?_append_left hplace,
                  List.getElem?_append_left (hlength ▸ hplace)] at hne
                refine ⟨0, x, y, place, rfl, rfl, hne, ?_⟩
                simp [boundary, headerLength, Nat.add_comm]
              · have hlong := Nat.not_lt.1 hplace
                rw [List.getElem?_append_right hlong,
                  List.getElem?_append_right (hlength ▸ hlong), hlength] at hne
                obtain ⟨i, u, v, k, hu, hv, hdiffer, hk⟩ := ih hrest _ hne
                refine ⟨i + 1, u, v, k, hu, hv, hdiffer, ?_⟩
                simp only [boundary, List.take_succ_cons, List.flatten_cons, List.length_append,
                  hlength] at hk ⊢
                omega

/-- The file on the shelf is a version and these parts, and the handle knows where each of them
begins and where the last one ends. -/
structure RecordFile.Parted (file : RecordFile) (shelf : Shelf) (version : UInt8)
    (parts : List Bytes) : Prop where
  node : shelf.node = .file (version :: parts.flatten)
  eof : file.eof = headerLength + parts.flatten.length
  offsets : file.offsets = offsetsFrom headerLength parts

namespace RecordFile.Parted

variable {file : RecordFile} {shelf : Shelf} {version : UInt8} {parts : List Bytes}

theorem of_node (h : file.Parted shelf version parts) {other : Shelf}
    (hnode : other.node = shelf.node) : file.Parted other version parts where
  node := hnode.trans h.node
  eof := h.eof
  offsets := h.offsets

theorem offsetOf? (h : file.Parted shelf version parts) {index : Nat}
    (hindex : index < parts.length) : file.offsetOf? index = some (boundary parts index) := by
  rw [RecordFile.offsetOf?, h.offsets, offsetsFrom_getElem?, if_pos hindex, boundary]

theorem set (h : file.Parted shelf version parts) {index : Nat} {part other : Bytes}
    (hpart : parts[index]? = some part) (hlength : other.length = part.length) :
    file.Parted { shelf with node := .file (version :: (parts.set index other).flatten) } version
      (parts.set index other) where
  node := rfl
  eof := by rw [h.eof, List.length_flatten, List.length_flatten, lengths_set hpart hlength]
  offsets := by rw [h.offsets, offsetsFrom_of_lengths (lengths_set hpart hlength)]

theorem patch (h : file.Parted shelf version parts) {index : Nat} {old new rest : Bytes}
    (hpart : parts[index]? = some (old ++ rest)) (hlength : old.length = new.length) :
    file.patch (boundary parts index) new shelf =
      if shelf.locked then (.error .io, shelf)
      else (.ok (), { shelf with
        node := .file (version :: (parts.set index (new ++ rest)).flatten) }) := by
  obtain ⟨before, behind, hbefore, hcontent, hother⟩ := flatten_at hpart version
  have heof : file.eof = (version :: parts.flatten).length := h.eof.trans (Nat.add_comm _ _)
  have hend : boundary parts index + new.length ≤ file.eof := by
    simp only [heof, hcontent, List.length_append, ← hbefore, ← hlength]
    omega
  rw [RecordFile.patch, if_neg (by simp only [boundary] at hend ⊢; omega), Shelf.write,
    Shelf.change]
  cases hlocked : shelf.locked with
  | true => rfl
  | false =>
      simp only [h.node, hcontent, List.append_assoc, ← hbefore, overlay_middle hlength, hother]
      rfl

theorem grow (h : file.Parted shelf version parts) (part : Bytes) :
    RecordFile.Parted ⟨file.eof + part.length, file.offsets ++ [file.eof]⟩
      { shelf with node := .file (version :: (parts ++ [part]).flatten) } version
      (parts ++ [part]) where
  node := rfl
  eof := by simp [h.eof, Nat.add_assoc]
  offsets := by simp [h.offsets, h.eof, offsetsFrom_append, offsetsFrom]

theorem append {α : Type} [Record α] [Storable α] (h : file.Parted shelf version parts) (r : α) :
    file.append r shelf =
      if shelf.locked then (.error .io, shelf)
      else (.ok (file.eof, ⟨file.eof + (bytesOf r).length, file.offsets ++ [file.eof]⟩),
        { shelf with node := .file (version :: (parts ++ [bytesOf r]).flatten) }) := by
  have heof : file.eof = (version :: parts.flatten).length := h.eof.trans (Nat.add_comm _ _)
  have hgrown : (version :: parts.flatten) ++ bytesOf r =
      version :: (parts ++ [bytesOf r]).flatten := by simp
  rw [RecordFile.append, encode_eq]
  cases hlocked : shelf.locked with
  | true => simp [Shelf.write, Shelf.change, hlocked]
  | false =>
      simp only [Shelf.write, Shelf.change, hlocked, h.node, heof, overlay_end, hgrown]
      rfl

end RecordFile.Parted

variable {α : Type} [Record α]

section Forall₂

variable {β γ : Type} {R : β → γ → Prop} {xs : List β} {ys : List γ}

theorem forall₂_getElem? (h : List.Forall₂ R xs ys) {i : Nat} {y : γ} (hy : ys[i]? = some y) :
    ∃ x, xs[i]? = some x ∧ R x y := by
  induction h generalizing i with
  | nil => cases hy
  | @cons x _ xs ys hxy hrest ih =>
      cases i with
      | zero =>
          cases hy
          exact ⟨x, rfl, hxy⟩
      | succ i => exact ih hy

theorem forall₂_set (h : List.Forall₂ R xs ys) {x : β} {y : γ} (hxy : R x y) (i : Nat) :
    List.Forall₂ R (xs.set i x) (ys.set i y) := by
  induction h generalizing i with
  | nil => exact .nil
  | cons hhead htail ih =>
      cases i with
      | zero => exact .cons hxy htail
      | succ i => exact .cons hhead (ih i)

end Forall₂

/-- The bytes are read as this record, whatever follows them. -/
def Image (version : UInt8) (part : Bytes) (r : α) : Prop :=
  ∀ position rest, decode version ⟨position, part ++ rest⟩ =
    .ok (r, ⟨position + part.length, rest⟩)

theorem decodes_of_images {version : UInt8} {parts : List Bytes} {records : List α}
    (h : List.Forall₂ (Image version) parts records) (position : Nat) (rest : Bytes) :
    Decodes version ⟨position, parts.flatten ++ rest⟩
      ((RecordFile.offsetsFrom position parts).zip records)
      ⟨position + parts.flatten.length, rest⟩ := by
  induction h generalizing position with
  | nil => exact .nil _
  | @cons part r parts records hpart hparts ih =>
      have hrest := ih (position + part.length)
      rw [List.flatten_cons, List.append_assoc, List.length_append, ← Nat.add_assoc]
      exact .cons (hpart position _) hrest

variable [Storable α]

theorem Decodes.images {version : UInt8} (h : (Record.schema α).supports version)
    {c behind : Cursor} {read : List (Nat × α)} (hread : Decodes version c read behind) :
    ∃ parts, c.rest = parts.flatten ++ behind.rest ∧
      behind.position = c.position + parts.flatten.length ∧
      read.map Prod.fst = RecordFile.offsetsFrom c.position parts ∧
      List.Forall₂ (Image version) parts (read.map Prod.snd) := by
  induction hread with
  | nil c => exact ⟨[], rfl, rfl, rfl, .nil⟩
  | @cons c next behind a read head tail ih =>
      obtain ⟨part, -, hrest, hposition, himage⟩ := decode_takes h head
      obtain ⟨parts, hnext, hbehind, hoffsets, himages⟩ := ih
      refine ⟨part :: parts, ?_, ?_, ?_, .cons himage himages⟩
      · rw [hrest, hnext, List.flatten_cons, List.append_assoc]
      · rw [hbehind, hposition, List.flatten_cons, List.length_append, Nat.add_assoc]
      · rw [List.map_cons, hoffsets, hposition, RecordFile.offsetsFrom]

namespace RecordFile

variable {shelf after : Shelf} {found : Opened α}

/-- An opened file consists of the parts that were read, or of those that were written anew. -/
theorem parted_of_openAt {now : UInt64} (h : openAt now shelf = (.ok found, after)) :
    ∃ parts, found.file.Parted after (Record.schema α).current parts ∧
      (found.outcome.InPlace →
        List.Forall₂ (Image (Record.schema α).current) parts found.records) ∧
      (¬ found.outcome.InPlace → parts = found.records.map bytesOf) := by
  cases leaves_of_openAt h with
  | @anew records outcome hin hnode =>
      refine ⟨records.map bytesOf, ⟨?_, contentOf_length records, rfl⟩, fun h => absurd h hin,
        fun _ => rfl⟩
      rw [hnode, contentOf, List.flatMap_def]
  | @inPlace body read eof outcome hin hnode hread =>
      obtain ⟨parts, hbody, heof, hoffsets, himages⟩ := hread.images supports_current
      rw [List.append_nil] at hbody
      exact ⟨parts, ⟨hbody ▸ hnode, heof, hoffsets⟩, fun _ => himages, absurd hin⟩

/-- A file whose parts are read as these records is found as it is when it is opened again. -/
theorem Parted.reopened {file : RecordFile} {parts : List Bytes} {records : List α}
    (h : file.Parted shelf (Record.schema α).current parts)
    (himages : List.Forall₂ (Image (Record.schema α).current) parts records) (later : UInt64) :
    openAt later shelf = (.ok ⟨file, records, .loaded⟩, shelf) := by
  have hread := decodes_of_images himages headerLength []
  rw [List.append_nil] at hread
  have hlength : (offsetsFrom headerLength parts).length = records.length := by
    rw [offsetsFrom_length, himages.length_eq]
  rw [openAt_of_decodes h.node hread rfl, List.map_fst_zip (Nat.le_of_eq hlength),
    List.map_snd_zip (Nat.le_of_eq hlength.symm), ← h.eof, ← h.offsets]

theorem start_of_error {records : List α} {outcome : Outcome} {e : Failure}
    (h : start records outcome shelf = (.error e, after)) : after = shelf := by
  rw [start, writeAll_eq] at h
  split at h
  · rename_i hwrite
    split at hwrite
    · cases hwrite
      cases h
      rfl
    · cases hwrite
  · cases h

theorem restart_of_error {now : UInt64} {records : List α} {outcome : Outcome} {e : Failure}
    (h : restart now records outcome shelf = (.error e, after)) : after = shelf := by
  rw [restart] at h
  split at h
  · cases h
    rfl
  · rename_i aside harchive
    obtain ⟨hlocked, hnode⟩ : aside.locked = false ∧ aside.node ≠ .directory := by
      unfold Shelf.archive at harchive
      split at harchive
      · rename_i hlocked hnode
        cases harchive
        exact ⟨hlocked, nofun⟩
      · cases harchive
    rw [writeAll_of_writable hlocked hnode] at h
    cases h

theorem openAt_of_error {now : UInt64} {e : Failure}
    (h : openAt (α := α) now shelf = (.error e, after)) : after = shelf := by
  unfold openAt at h
  split at h
  · cases h
    rfl
  · exact start_of_error h
  · dsimp only at h
    split at h
    · unfold openBody at h
      dsimp only at h
      split at h
      · exact restart_of_error h
      · split at h
        · split at h
          · exact start_of_error h
          · exact restart_of_error h
        · split at h
          · split at h
            · cases h
              rfl
            · cases h
          · cases h
    · exact restart_of_error h

end RecordFile

end RemoteConsole.Store
