import RemoteConsole.Proofs.Ban.Entry
import RemoteConsole.Proofs.Ladder.Entry
import RemoteConsole.Proofs.Store.Holding

namespace RemoteConsole.Store

theorem boundary_mono (parts : List Bytes) {j k : Nat} (h : j ≤ k) :
    boundary parts j ≤ boundary parts k := by
  obtain ⟨n, rfl⟩ := Nat.exists_eq_add_of_le h
  simp only [boundary, List.take_add, List.flatten_append, List.length_append]
  omega

theorem boundary_succ {parts : List Bytes} {k : Nat} {b : Bytes} (h : parts[k]? = some b) :
    boundary parts (k + 1) = boundary parts k + b.length := by
  simp [boundary, List.take_add_one, h, Nat.add_assoc]

theorem lt_iff_boundary_le {parts : List Bytes} {length k : Nat}
    (hinside : boundary parts k ≤ length)
    (hnext : k < parts.length → length < boundary parts (k + 1)) {j : Nat}
    (hj : j < parts.length) : j < k ↔ boundary parts (j + 1) ≤ length := by
  constructor
  · intro hjk
    exact Nat.le_trans (boundary_mono parts hjk) hinside
  · intro hle
    refine Nat.lt_of_not_le fun hkj => ?_
    have hmono : boundary parts (k + 1) ≤ boundary parts (j + 1) :=
      boundary_mono parts (Nat.succ_le_succ hkj)
    have hlt := hnext (Nat.lt_of_le_of_lt hkj hj)
    omega

theorem take_flatten_cases (parts : List Bytes) (n : Nat) (hn : n ≤ parts.flatten.length) :
    ∃ k ≤ parts.length, ∃ part, parts.flatten.take n = (parts.take k).flatten ++ part ∧
      (part = [] ∨ part ≠ [] ∧ ∃ missing, missing ≠ [] ∧ parts[k]? = some (part ++ missing)) := by
  induction parts generalizing n with
  | nil => exact ⟨0, Nat.le_refl 0, [], by simp, .inl rfl⟩
  | cons b bs ih =>
      rw [List.flatten_cons, List.length_append] at hn
      by_cases hzero : n = 0
      · exact ⟨0, Nat.zero_le _, [], by simp [hzero], .inl rfl⟩
      · by_cases hin : n < b.length
        · refine ⟨0, Nat.zero_le _, b.take n, ?_, .inr ⟨?_, b.drop n, ?_, ?_⟩⟩
          · simp [List.take_append_of_le_length (Nat.le_of_lt hin)]
          · exact List.ne_nil_of_length_pos (by rw [List.length_take]; omega)
          · exact List.ne_nil_of_length_pos (by rw [List.length_drop]; omega)
          · simp
        · obtain ⟨k, hk, part, hpart, hcut⟩ := ih (n - b.length) (by omega)
          refine ⟨k + 1, Nat.succ_le_succ hk, part, ?_, by simpa using hcut⟩
          have htake : (b ++ bs.flatten).take n = b ++ bs.flatten.take (n - b.length) := by
            rw [List.take_append, List.take_of_length_le (by omega)]
          rw [List.flatten_cons, htake, hpart, List.take_succ_cons, List.flatten_cons,
            List.append_assoc]

variable {α : Type} [Record α]

/-- Opening the first `length` bytes of a file of some records gives back the first `k` of them
and leaves only these. Appending goes on from there as if nothing had been lost. -/
def Resumes [Storable α] (records : List α) (parts : List Bytes) (length k : Nat) (now : UInt64)
    (shelf : Shelf) : Prop :=
  ∃ file after,
    RecordFile.openAt now shelf =
      (.ok ⟨file, (records.take k).map Storable.stored,
        if length = 0 then .created
        else if length = boundary parts k then .loaded
        else .truncated (boundary parts k)⟩, after) ∧
    after = { shelf with
      node := .file (((Record.schema α).current :: parts.flatten).take (boundary parts k)) } ∧
    ∀ r : α, Fits r → ∀ later, ∃ offset grownFile grown,
      file.append r after = (.ok (offset, grownFile), grown) ∧
        RecordFile.openAt later grown =
          (.ok ⟨grownFile, (records.take k ++ [r]).map Storable.stored, .loaded⟩, grown)

/-- A file that was cut behind its version ends with a record or with a proper start of one. -/
theorem contentOf_take_cases (records : List α) {length : Nat} (hpos : 0 < length)
    (hlength : length ≤ (contentOf records).length) :
    ∃ k ≤ records.length, ∃ part,
      (contentOf records).take length = contentOf (records.take k) ++ part ∧
        length = boundary (records.map bytesOf) k + part.length ∧
        (part = [] ∨ part ≠ [] ∧ ∃ r missing, missing ≠ [] ∧ records[k]? = some r ∧
          bytesOf r = part ++ missing) := by
  obtain ⟨n, rfl⟩ := Nat.exists_eq_succ_of_ne_zero (Nat.pos_iff_ne_zero.1 hpos)
  have hbody : n ≤ (records.map bytesOf).flatten.length := by
    rw [contentOf_length, headerLength] at hlength
    omega
  obtain ⟨k, hk, part, hpart, hcut⟩ := take_flatten_cases (records.map bytesOf) n hbody
  have hcontent : (contentOf records).take (n + 1) = contentOf (records.take k) ++ part := by
    rw [contentOf, contentOf, List.take_succ_cons, List.flatMap_def, hpart, List.flatMap_def,
      List.map_take]
    rfl
  refine ⟨k, by simpa using hk, part, hcontent, ?_, hcut.imp_right ?_⟩
  · rw [← contentOf_take_length, ← List.length_append, ← hcontent, List.length_take_of_le hlength]
  · rintro ⟨hne, missing, hmissing, hget⟩
    rw [List.getElem?_map, Option.map_eq_some_iff] at hget
    obtain ⟨r, hr, hbytes⟩ := hget
    exact ⟨hne, r, missing, hmissing, hr, hbytes⟩

variable [Storable α]

theorem bytesOf_ne_nil {r : α} (h : Fits r) : bytesOf r ≠ [] := by
  intro hempty
  have hdecode := decode_whole h 0 []
  obtain ⟨taken, htaken, hrest, -⟩ := decode_takes supports_current hdecode
  have hlength := congrArg List.length hrest
  simp only [hempty, List.append_nil, List.length_nil] at hlength
  omega

theorem openAt_of_torn {shelf : Shelf} {records : List α} {r : α} {part missing : Bytes}
    (hlocked : shelf.locked = false) (hnode : shelf.node = .file (contentOf records ++ part))
    (hfits : ∀ q ∈ records, Fits q) (hr : Fits r) (hsplit : bytesOf r = part ++ missing)
    (hpart : part ≠ []) (hmissing : missing ≠ []) (now : UInt64) :
    RecordFile.openAt now shelf =
      (.ok ⟨handleOf records, records.map Storable.stored, .truncated (contentOf records).length⟩,
        { shelf with node := .file (contentOf records) }) := by
  have hcurrent : ¬ (Record.schema α).current < (Record.schema α).current := UInt8.lt_irrefl _
  have hlength : headerLength + (records.flatMap bytesOf).length = (contentOf records).length := by
    rw [contentOf_length, List.flatMap_def]
  have hcut : shelf.truncate (contentOf records).length =
      .ok { shelf with node := .file (contentOf records) } := by
    simp only [Shelf.truncate, Shelf.change, hlocked, hnode, List.take_left]
  have hread : shelf.read =
      .ok ((Record.schema α).current :: (records.flatMap bytesOf ++ part)) := by
    rw [Shelf.read, hnode]
    rfl
  simp only [RecordFile.openAt, hread, supports_current, if_true, RecordFile.openBody,
    scan_torn hfits hr hsplit hpart hmissing, if_neg hcurrent, placed_offsets, placed_records,
    hlength, hcut]
  rfl

theorem resumes_of_opened {records : List α} (hfits : ∀ r ∈ records, Fits r) {length k : Nat}
    {now : UInt64} {shelf : Shelf} (hlocked : shelf.locked = false)
    (hopen : RecordFile.openAt now shelf =
      (.ok ⟨handleOf (records.take k), (records.take k).map Storable.stored,
        if length = 0 then .created
        else if length = boundary (records.map bytesOf) k then .loaded
        else .truncated (boundary (records.map bytesOf) k)⟩,
        { shelf with node := .file (contentOf (records.take k)) })) :
    Resumes records (records.map bytesOf) length k now shelf := by
  refine ⟨_, _, hopen, ?_, fun r hr later => ?_⟩
  · rw [contentOf_take, contentOf, List.flatMap_def]
  · have hholds (kept : List α) :
        Shelf.Holds { shelf with node := .file (contentOf kept) } kept := ⟨hlocked, rfl⟩
    refine ⟨_, _, _, append_of_holds (hholds _) r, openAt_of_holds (hholds _) ?_ later⟩
    intro q hq
    rcases List.mem_append.1 hq with hq | hq
    · exact hfits q (List.mem_of_mem_take hq)
    · rw [List.mem_singleton.1 hq]
      exact hr

theorem openAt_cut {records : List α} (hfits : ∀ r ∈ records, Fits r) {length : Nat}
    (hlength : length ≤ (contentOf records).length) {shelf : Shelf} (hlocked : shelf.locked = false)
    (hnode : shelf.node = .file ((contentOf records).take length)) (now : UInt64) :
    ∃ k ≤ records.length,
      (∀ j < records.length, j < k ↔ boundary (records.map bytesOf) (j + 1) ≤ length) ∧
        Resumes records (records.map bytesOf) length k now shelf := by
  by_cases hzero : length = 0
  · subst hzero
    refine ⟨0, Nat.zero_le _, fun j hj => ?_, resumes_of_opened hfits hlocked ?_⟩
    · simp [boundary, headerLength]
    · exact openAt_of_read_nil hlocked (by rw [Shelf.read, hnode]; rfl) now
  · obtain ⟨k, hk, part, hcontent, hsplit, hcut⟩ :=
      contentOf_take_cases records (Nat.pos_of_ne_zero hzero) hlength
    have hkept : ∀ q ∈ records.take k, Fits q := fun q hq => hfits q (List.mem_of_mem_take hq)
    have hnext : k < (records.map bytesOf).length →
        length < boundary (records.map bytesOf) (k + 1) := by
      intro hlt
      rw [List.length_map] at hlt
      have hget : (records.map bytesOf)[k]? = some (bytesOf records[k]) := by simp [hlt]
      rw [boundary_succ hget, hsplit]
      rcases hcut with rfl | ⟨hne, r, missing, hmissing, hr, hbytes⟩
      · have hpos := List.length_pos_iff.2 (bytesOf_ne_nil (hfits _ (List.getElem_mem hlt)))
        rw [List.length_nil]
        omega
      · have hrecord : records[k] = r := by simpa [hlt] using hr
        have hpos := List.length_pos_iff.2 hmissing
        rw [hrecord, hbytes, List.length_append]
        omega
    refine ⟨k, hk, fun j hj => lt_iff_boundary_le (by omega) hnext (by simpa using hj),
      resumes_of_opened hfits hlocked ?_⟩
    rw [if_neg hzero]
    rcases hcut with rfl | ⟨hne, r, missing, hmissing, hr, hbytes⟩
    · have hholds : shelf.Holds (records.take k) :=
        ⟨hlocked, by rw [hnode, hcontent, List.append_nil]⟩
      rw [List.length_nil, Nat.add_zero] at hsplit
      rw [openAt_of_holds hholds hkept, if_pos hsplit, ← hholds.2]
    · have hpos := List.length_pos_iff.2 hne
      rw [openAt_of_torn hlocked (hcontent ▸ hnode) hkept (hfits r (List.mem_of_getElem? hr)) hbytes
        hne hmissing, if_neg (by omega), contentOf_take_length]

def SurvivesCuts (records : List α) : Prop :=
  ∃ parts, RecordFile.encodeAll records = .ok parts ∧
    ∀ length ≤ ((Record.schema α).current :: parts.flatten).length, ∀ now shelf,
      shelf.locked = false →
      shelf.node = .file (((Record.schema α).current :: parts.flatten).take length) →
      ∃ k ≤ records.length, (∀ j < records.length, j < k ↔ boundary parts (j + 1) ≤ length) ∧
        Resumes records parts length k now shelf

theorem survivesCuts {records : List α} (hfits : ∀ r ∈ records, Fits r) : SurvivesCuts records := by
  refine ⟨records.map bytesOf, encodeAll_eq records, ?_⟩
  intro length hlength now shelf hlocked hnode
  rw [← List.flatMap_def] at hlength hnode
  exact openAt_cut hfits hlength hlocked hnode now

/-- An append that was interrupted costs at most the record that was being appended. -/
theorem interrupted_append_loses_at_most_one :
    (∀ bans : List Ban.Entry, (∀ b ∈ bans, Fits b) → SurvivesCuts bans) ∧
      ∀ entries : List Ladder.Entry, (∀ e ∈ entries, Fits e) → SurvivesCuts entries :=
  ⟨fun _ => survivesCuts, fun _ => survivesCuts⟩

theorem interrupted_append_loses_at_most_one_of_two :
    ((∀ b ∈ [({ issued := 1, name := "é" } : Ban.Entry), { issued := 2 }], Fits b) ∧
      SurvivesCuts [({ issued := 1, name := "é" } : Ban.Entry), { issued := 2 }]) ∧
    (∀ e ∈ [({ account := 3, rank := 1 } : Ladder.Entry)], Fits e) ∧
      SurvivesCuts [({ account := 3, rank := 1 } : Ladder.Entry)] := by
  have hbans : ∀ b ∈ [({ issued := 1, name := "é" } : Ban.Entry), { issued := 2 }], Fits b := by
    decide
  have hentries : ∀ e ∈ [({ account := 3, rank := 1 } : Ladder.Entry)], Fits e := by decide
  exact ⟨⟨hbans, interrupted_append_loses_at_most_one.1 _ hbans⟩, hentries,
    interrupted_append_loses_at_most_one.2 _ hentries⟩

end RemoteConsole.Store
