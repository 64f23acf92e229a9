import RemoteConsole.Proofs.Store.Records

namespace RemoteConsole.Store

theorem overlay_middle {before old new behind : Bytes} (h : old.length = new.length) :
    Shelf.overlay before.length new (before ++ (old ++ behind)) = before ++ (new ++ behind) := by
  cases new with
  | nil =>
      have hold : old = [] := List.length_eq_zero_iff.1 h
      rw [hold]
      rfl
  | cons b bs =>
      have hdrop : (old ++ behind).drop (b :: bs).length = behind := by
        rw [← h, List.drop_left]
      simpa [Shelf.overlay] using hdrop

theorem overlay_end (content bytes : Bytes) :
    Shelf.overlay content.length bytes content = content ++ bytes := by
  cases bytes with
  | nil => rw [List.append_nil]; rfl
  | cons b bs => simp [Shelf.overlay]

theorem offsetsFrom_append (position : Nat) (xs ys : List Bytes) :
    RecordFile.offsetsFrom position (xs ++ ys) =
      RecordFile.offsetsFrom position xs ++
        RecordFile.offsetsFrom (position + xs.flatten.length) ys := by
  induction xs generalizing position with
  | nil => rfl
  | cons x xs ih => simp [RecordFile.offsetsFrom, ih, Nat.add_assoc]

theorem offsetsFrom_getElem? (position : Nat) (parts : List Bytes) (i : Nat) :
    (RecordFile.offsetsFrom position parts)[i]? =
      if i < parts.length then some (position + (parts.take i).flatten.length) else none := by
  induction parts generalizing position i with
  | nil => simp [RecordFile.offsetsFrom]
  | cons b bs ih =>
      cases i with
      | zero => simp [RecordFile.offsetsFrom]
      | succ i => simp [RecordFile.offsetsFrom, ih, Nat.add_assoc]

/-- How long a file is that holds the first `k` of some records. -/
def boundary (parts : List Bytes) (k : Nat) : Nat :=
  headerLength + (parts.take k).flatten.length

variable {α : Type} [Record α]

def contentOf (records : List α) : Bytes :=
  (Record.schema α).current :: records.flatMap bytesOf

def handleOf (records : List α) : RecordFile :=
  ⟨(contentOf records).length, RecordFile.offsetsFrom headerLength (records.map bytesOf)⟩

/-- The file is there with these records, and it can be changed. -/
def Shelf.Holds (shelf : Shelf) (records : List α) : Prop :=
  shelf.locked = false ∧ shelf.node = .file (contentOf records)

theorem contentOf_length (records : List α) :
    (contentOf records).length = headerLength + (records.map bytesOf).flatten.length := by
  rw [← List.flatMap_def, contentOf, List.length_cons, headerLength, Nat.add_comm]

theorem contentOf_append (xs ys : List α) :
    contentOf (xs ++ ys) = contentOf xs ++ ys.flatMap bytesOf := by
  simp [contentOf]

theorem contentOf_take_length (records : List α) (k : Nat) :
    (contentOf (records.take k)).length = boundary (records.map bytesOf) k := by
  rw [contentOf_length, boundary, List.map_take]

theorem contentOf_take (records : List α) (k : Nat) :
    contentOf (records.take k) = (contentOf records).take (boundary (records.map bytesOf) k) := by
  have hsplit : contentOf records =
      contentOf (records.take k) ++ (records.drop k).flatMap bytesOf := by
    rw [← contentOf_append, List.take_append_drop]
  rw [← contentOf_take_length, hsplit, List.take_left]

theorem handleOf_offsetOf? (records : List α) (i : Nat) :
    (handleOf records).offsetOf? i =
      if i < records.length then some (contentOf (records.take i)).length else none := by
  rw [contentOf_take_length, boundary]
  simpa [handleOf, RecordFile.offsetOf?] using
    offsetsFrom_getElem? headerLength (records.map bytesOf) i

theorem handleOf_offsets_length (records : List α) :
    (handleOf records).offsets.length = records.length := by
  simp [handleOf, offsetsFrom_length]

theorem handleOf_append (xs ys : List α) :
    handleOf (xs ++ ys) = ⟨(contentOf (xs ++ ys)).length, (handleOf xs).offsets ++
      RecordFile.offsetsFrom (contentOf xs).length (ys.map bytesOf)⟩ := by
  simp only [handleOf, List.map_append, offsetsFrom_append, contentOf_length xs]

theorem Shelf.Holds.write {shelf : Shelf} {records : List α} (h : shelf.Holds records)
    (offset : Nat) (bytes : Bytes) :
    shelf.write offset bytes =
      .ok { shelf with node := .file (overlay offset bytes (contentOf records)) } := by
  simp only [Shelf.write, Shelf.change, h.1, h.2]

theorem Shelf.write_of_error {shelf : Shelf} {offset : Nat} {bytes : Bytes} {e : Failure}
    (h : shelf.write offset bytes = .error e) : e = .io := by
  unfold Shelf.write Shelf.change at h
  split at h
  · cases h
  · cases h
    rfl

theorem patch_of_holds {shelf : Shelf} {xs ys : List α} {r s : α} {before old new behind : Bytes}
    (h : shelf.Holds (xs ++ r :: ys)) (hr : bytesOf r = before ++ (old ++ behind))
    (hs : bytesOf s = before ++ (new ++ behind)) (hlength : old.length = new.length) :
    (handleOf (xs ++ r :: ys)).patch ((contentOf xs).length + before.length) new shelf =
        (.ok (), { shelf with node := .file (contentOf (xs ++ s :: ys)) }) ∧
      handleOf (xs ++ s :: ys) = handleOf (xs ++ r :: ys) := by
  have hcontent (q : α) (part : Bytes) (hq : bytesOf q = before ++ (part ++ behind)) :
      contentOf (xs ++ q :: ys) =
        (contentOf xs ++ before) ++ (part ++ (behind ++ ys.flatMap bytesOf)) := by
    rw [contentOf_append, List.flatMap_cons, hq]
    simp only [List.append_assoc]
  have hsame : (contentOf (xs ++ s :: ys)).length = (contentOf (xs ++ r :: ys)).length := by
    rw [hcontent s new hs, hcontent r old hr]
    simp only [List.length_append, hlength]
  have hbytes : (bytesOf s).length = (bytesOf r).length := by
    rw [hs, hr]
    simp only [List.length_append, hlength]
  constructor
  · have hstart : headerLength ≤ (contentOf xs).length := by
      rw [contentOf_length]
      omega
    have hend : (contentOf xs).length + before.length + new.length ≤
        (contentOf (xs ++ r :: ys)).length := by
      rw [hcontent r old hr]
      simp only [List.length_append]
      omega
    rw [RecordFile.patch, if_neg (by simp only [handleOf]; omega), h.write, hcontent r old hr,
      ← List.length_append, overlay_middle hlength, ← hcontent s new hs]
  · simp only [handleOf_append, hsame, List.map_cons, RecordFile.offsetsFrom, hbytes]

variable [Storable α]

theorem writeAll_eq (records : List α) (shelf : Shelf) :
    RecordFile.writeAll records shelf =
      match shelf.replace (contentOf records) with
      | .error e => (.error e, shelf)
      | .ok shelf => (.ok (handleOf records), shelf) := by
  simp only [RecordFile.writeAll, encodeAll_eq, ← List.flatMap_def]
  rfl

theorem writeAll_of_writable {shelf : Shelf} (hlocked : shelf.locked = false)
    (hnode : shelf.node ≠ .directory) (records : List α) :
    RecordFile.writeAll records shelf =
      (.ok (handleOf records), { shelf with node := .file (contentOf records) }) := by
  rw [writeAll_eq, Shelf.replace, if_neg (by simp [hlocked, hnode])]

theorem writeAll_inv {records : List α} {shelf after : Shelf} {file : RecordFile}
    (h : RecordFile.writeAll records shelf = (.ok file, after)) :
    file = handleOf records ∧ after = { shelf with node := .file (contentOf records) } := by
  rw [writeAll_eq, Shelf.replace] at h
  split at h
  · cases h
  · rename_i hreplace
    split at hreplace
    · cases hreplace
    · cases hreplace
      cases h
      exact ⟨rfl, rfl⟩

theorem writeAll_of_error {records : List α} {shelf after : Shelf} {e : Failure}
    (h : RecordFile.writeAll records shelf = (.error e, after)) : e = .io ∧ after = shelf := by
  rw [writeAll_eq, Shelf.replace] at h
  split at h
  · rename_i hreplace
    split at hreplace
    · cases hreplace
      cases h
      exact ⟨rfl, rfl⟩
    · cases hreplace
  · cases h

theorem start_inv {records : List α} {outcome : Outcome} {shelf after : Shelf} {found : Opened α}
    (h : RecordFile.start records outcome shelf = (.ok found, after)) :
    found = ⟨handleOf records, records, outcome⟩ ∧
      after = { shelf with node := .file (contentOf records) } := by
  unfold RecordFile.start at h
  split at h
  · cases h
  · rename_i file written hwrite
    obtain ⟨rfl, rfl⟩ := writeAll_inv hwrite
    cases h
    exact ⟨rfl, rfl⟩

theorem restart_inv {now : UInt64} {records : List α} {outcome : Outcome} {shelf after : Shelf}
    {found : Opened α} {content : Bytes} (hnode : shelf.node = .file content)
    (h : RecordFile.restart now records outcome shelf = (.ok found, after)) :
    found = ⟨handleOf records, records, outcome⟩ ∧
      after.node = .file (contentOf records) ∧ (now, content) ∈ after.backups := by
  unfold RecordFile.restart at h
  split at h
  · cases h
  · rename_i aside harchive
    split at h
    · cases h
    · rename_i file written hwrite
      obtain ⟨rfl, rfl⟩ := writeAll_inv hwrite
      cases h
      simp only [Shelf.archive, hnode] at harchive
      split at harchive
      · rename_i held hheld
        cases hheld
        cases harchive
        exact ⟨rfl, rfl, by simp⟩
      · cases harchive

theorem openAt_of_read_nil {shelf : Shelf} (hlocked : shelf.locked = false)
    (hread : shelf.read = .ok []) (now : UInt64) :
    RecordFile.openAt now shelf =
      (.ok (⟨handleOf ([] : List α), [], .created⟩ : Opened α),
        { shelf with node := .file (contentOf ([] : List α)) }) := by
  have hnode : shelf.node ≠ .directory := by
    intro h
    simp [Shelf.read, h] at hread
  simp only [RecordFile.openAt, hread, RecordFile.start, writeAll_of_writable hlocked hnode]

theorem openAt_of_decodes {shelf : Shelf} {body : Bytes} {read : List (Nat × α)} {behind : Cursor}
    (hnode : shelf.node = .file ((Record.schema α).current :: body))
    (hread : Decodes (Record.schema α).current ⟨headerLength, body⟩ read behind)
    (hrest : behind.rest = []) (now : UInt64) :
    RecordFile.openAt now shelf =
      (.ok ⟨⟨headerLength + body.length, read.map Prod.fst⟩, read.map Prod.snd, .loaded⟩,
        shelf) := by
  have hcurrent : ¬ (Record.schema α).current < (Record.schema α).current := UInt8.lt_irrefl _
  have hscan : scan (Record.schema α).current body = ⟨read, none⟩ :=
    scanFrom_eq supports_current hread (.done hrest) (Nat.le_refl _)
  simp only [RecordFile.openAt, Shelf.read, hnode, supports_current, if_true, RecordFile.openBody,
    hscan, if_neg hcurrent]

theorem openAt_of_older {shelf : Shelf} {version : UInt8} {body : Bytes} {read : List (Nat × α)}
    {behind : Cursor} (hlocked : shelf.locked = false)
    (hnode : shelf.node = .file (version :: body)) (hversion : (Record.schema α).supports version)
    (hold : version < (Record.schema α).current)
    (hread : Decodes version ⟨headerLength, body⟩ read behind) (hrest : behind.rest = [])
    (now : UInt64) :
    RecordFile.openAt now shelf =
      (.ok ⟨handleOf (read.map Prod.snd), read.map Prod.snd, .upgraded version⟩,
        { shelf with node := .file (contentOf (read.map Prod.snd)) }) := by
  have hscan : scan version body = ⟨read, none⟩ :=
    scanFrom_eq hversion hread (.done hrest) (Nat.le_refl _)
  have hdirectory : shelf.node ≠ .directory := by
    intro h
    rw [hnode] at h
    cases h
  simp only [RecordFile.openAt, Shelf.read, hnode, hversion, if_true, RecordFile.openBody, hscan,
    if_pos hold, RecordFile.start, writeAll_of_writable hlocked hdirectory]

theorem openAt_of_content {shelf : Shelf} {records : List α}
    (hnode : shelf.node = .file (contentOf records)) (hfits : ∀ r ∈ records, Fits r)
    (now : UInt64) :
    RecordFile.openAt now shelf =
      (.ok ⟨handleOf records, records.map Storable.stored, .loaded⟩, shelf) := by
  have hread := decodes_placed hfits headerLength []
  rw [List.append_nil] at hread
  rw [openAt_of_decodes hnode hread rfl, placed_offsets, placed_records]
  simp only [handleOf, contentOf, List.length_cons, headerLength, Nat.add_comm]

theorem openAt_of_holds {shelf : Shelf} {records : List α} (h : shelf.Holds records)
    (hfits : ∀ r ∈ records, Fits r) (now : UInt64) :
    RecordFile.openAt now shelf =
      (.ok ⟨handleOf records, records.map Storable.stored, .loaded⟩, shelf) :=
  openAt_of_content h.2 hfits now

theorem append_of_holds {shelf : Shelf} {records : List α} (h : shelf.Holds records) (r : α) :
    (handleOf records).append r shelf =
      (.ok ((contentOf records).length, handleOf (records ++ [r])),
        { shelf with node := .file (contentOf (records ++ [r])) }) := by
  have hwrite := h.write (handleOf records).eof (bytesOf r)
  simp only [RecordFile.append, encode_eq, hwrite, handleOf_append, contentOf_append]
  simp only [handleOf, overlay_end, List.length_append, List.flatMap_cons, List.flatMap_nil,
    List.append_nil]
  rfl

end RemoteConsole.Store
