import RemoteConsole.Proofs.Store.Opening

namespace RemoteConsole.Store

def Shelf.Writable (shelf : Shelf) : Prop :=
  shelf.locked = false ∧ ∃ content, shelf.node = .file content

theorem Shelf.Writable.change {shelf : Shelf} (h : shelf.Writable) (f : Bytes → Bytes) :
    ∃ after, shelf.change f = .ok after ∧ after.Writable := by
  obtain ⟨hlocked, content, hnode⟩ := h
  exact ⟨{ shelf with node := .file (f content) }, by simp only [Shelf.change, hlocked, hnode],
    hlocked, _, rfl⟩

/-- The records that the handle knows begin behind the version, and at least so many bytes ahead
of the end. -/
structure RecordFile.Spaced (file : RecordFile) (least count : Nat) : Prop where
  length : file.offsets.length = count
  within : ∀ start ∈ file.offsets, headerLength ≤ start ∧ start + least ≤ file.eof
  header : headerLength ≤ file.eof

namespace RecordFile.Spaced

variable {file : RecordFile} {least count : Nat}

theorem offsetOf? (h : file.Spaced least count) {index : Nat} (hindex : index < count) :
    ∃ start, file.offsetOf? index = some start ∧ headerLength ≤ start ∧
      start + least ≤ file.eof := by
  have hlt : index < file.offsets.length := by rw [h.length]; exact hindex
  exact ⟨_, List.getElem?_eq_getElem hlt, h.within _ (List.getElem_mem hlt)⟩

theorem patch {start : Nat} {bytes : Bytes}
    (hstart : headerLength ≤ start) (hend : start + bytes.length ≤ file.eof) {shelf : Shelf}
    (hshelf : shelf.Writable) :
    ∃ after, file.patch start bytes shelf = (.ok (), after) ∧ after.Writable := by
  obtain ⟨after, hwrite, hafter⟩ := hshelf.change (Shelf.overlay start bytes)
  refine ⟨after, ?_, hafter⟩
  rw [RecordFile.patch, if_neg (by omega), Shelf.write, hwrite]

theorem grow (h : file.Spaced least count) {bytes : Bytes} (hbytes : least ≤ bytes.length) :
    RecordFile.Spaced ⟨file.eof + bytes.length, file.offsets ++ [file.eof]⟩ least (count + 1) where
  length := by simp [h.length]
  within start hstart := by
    rcases List.mem_append.1 hstart with hstart | hstart
    · obtain ⟨hheader, hend⟩ := h.within start hstart
      exact ⟨hheader, by simp only; omega⟩
    · rw [List.mem_singleton.1 hstart]
      exact ⟨h.header, by simp only; omega⟩
  header := by
    have := h.header
    simp only
    omega

end RecordFile.Spaced

variable {α : Type} [Record α] {least : Nat}

section Read

variable [Storable α]

theorem decode_position {version : UInt8}
    (hleast : Takes least (Cursor.fields version (Record.schema α).fields)) {c behind : Cursor}
    {r : α} (h : decode version c = .ok (r, behind)) : c.position + least ≤ behind.position := by
  obtain ⟨vs, hfields, -⟩ := fields_of_decode h
  obtain ⟨taken, htaken, -, hposition, -⟩ := hleast hfields
  omega

theorem Decodes.within {version : UInt8}
    (hleast : Takes least (Cursor.fields version (Record.schema α).fields)) {c behind : Cursor}
    {read : List (Nat × α)} (h : Decodes version c read behind) :
    c.position ≤ behind.position ∧
      ∀ start ∈ read.map Prod.fst, c.position ≤ start ∧ start + least ≤ behind.position := by
  induction h with
  | nil c => exact ⟨Nat.le_refl _, nofun⟩
  | cons head tail ih =>
      have hhead := decode_position hleast head
      refine ⟨by omega, fun start hstart => ?_⟩
      rcases List.mem_cons.1 hstart with rfl | hstart
      · exact ⟨Nat.le_refl _, by omega⟩
      · have := ih.2 start hstart
        omega

end Read

theorem offsetsFrom_within (parts : List Bytes) (hleast : ∀ b ∈ parts, least ≤ b.length)
    (position : Nat) : ∀ start ∈ RecordFile.offsetsFrom position parts,
      position ≤ start ∧ start + least ≤ position + parts.flatten.length := by
  induction parts generalizing position with
  | nil => exact nofun
  | cons b bs ih =>
      obtain ⟨hb, hbs⟩ := List.forall_mem_cons.1 hleast
      intro start hstart
      rw [List.flatten_cons, List.length_append]
      rcases List.mem_cons.1 hstart with rfl | hstart
      · omega
      · have := ih hbs _ start hstart
        omega

theorem spaced_handleOf (hleast : ∀ r : α, least ≤ (bytesOf r).length) (records : List α) :
    (handleOf records).Spaced least records.length where
  length := handleOf_offsets_length records
  within := by
    have hparts : ∀ b ∈ records.map bytesOf, least ≤ b.length :=
      List.forall_mem_map.2 fun r _ => hleast r
    simp only [handleOf, contentOf_length]
    exact offsetsFrom_within _ hparts headerLength
  header := by
    simp only [handleOf, contentOf_length]
    omega

variable [Storable α]

theorem spaced_openAt (hleast : ∀ r : α, least ≤ (bytesOf r).length)
    (htakes : ∀ version, Takes least (Cursor.fields version (Record.schema α).fields))
    {now : UInt64} {shelf after : Shelf} {found : Opened α}
    (h : RecordFile.openAt now shelf = (.ok found, after)) :
    found.file.Spaced least found.records.length := by
  cases leaves_of_openAt h with
  | anew => exact spaced_handleOf hleast _
  | inPlace hin hnode hread =>
      obtain ⟨hheader, hwithin⟩ := hread.within (htakes _)
      exact ⟨by simp, hwithin, hheader⟩

end RemoteConsole.Store
