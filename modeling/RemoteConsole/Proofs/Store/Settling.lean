import RemoteConsole.Proofs.Store.Limits
import RemoteConsole.Proofs.Store.Opening

namespace RemoteConsole.Store

variable {α : Type} [Record α]

/-- Opening the file gives back these records and changes nothing. -/
def Settled (records : List α) (shelf : Shelf) : Prop :=
  ∀ later, ∃ file, RecordFile.openAt later shelf = (.ok ⟨file, records, .loaded⟩, shelf)

theorem Accounts.decodes_of_loaded {now : UInt64} {shelf after : Shelf} {content : Bytes}
    {records : List α} (h : Accounts now shelf after content .loaded records) :
    ∃ (body : Bytes) (read : List (Nat × α)) (behind : Cursor),
      content = (Record.schema α).current :: body ∧
        Decodes (Record.schema α).current ⟨headerLength, body⟩ read behind ∧
          read.map Prod.snd = records := by
  cases h with
  | loaded hread => exact ⟨_, _, _, rfl, hread, rfl⟩

variable [Storable α]

theorem Accounts.stored [Faithful α] {now : UInt64} {shelf after : Shelf} {content : Bytes}
    {outcome : Outcome} {records : List α} (h : Accounts now shelf after content outcome records) :
    records.map Storable.stored = records := by
  cases h with
  | created | reset => rfl
  | loaded hread | truncated hread | upgraded _ _ hread | upgradedTorn _ _ hread
  | salvaged _ hread => exact hread.stored

theorem Leaves.settled {after : Shelf} {found : Opened α} (h : Leaves after found)
    (hin : found.outcome.InPlace) : Settled found.records after := by
  intro later
  cases h with
  | anew hnot => exact absurd hin hnot
  | inPlace _ hnode hread => exact ⟨_, openAt_of_decodes hnode hread rfl later⟩

variable [Faithful α]

theorem fits_of_decodes {records : List α} {position : Nat} {rest : Bytes} {behind : Cursor}
    {read : List (Nat × α)}
    (h : Decodes (Record.schema α).current ⟨position, records.flatMap bytesOf ++ rest⟩ read behind)
    (hsame : read.map Prod.snd = records.map Storable.stored) : ∀ r ∈ records, Fits r := by
  induction records generalizing position read with
  | nil => exact fun r hr => absurd hr List.not_mem_nil
  | cons r rs ih =>
      cases h with
      | nil => simp at hsame
      | cons head tail =>
          obtain ⟨hstored, hsame⟩ := List.cons_eq_cons.1 hsame
          simp only at hstored
          rw [List.flatMap_cons, List.append_assoc, hstored] at head
          have hfits := fits_of_decode head
          rw [decode_whole hfits] at head
          cases head
          exact List.forall_mem_cons.2 ⟨hfits, ih tail hsame⟩

theorem settled_iff_fits {records : List α} {shelf : Shelf}
    (hnode : shelf.node = .file (contentOf records)) :
    Settled (records.map Storable.stored) shelf ↔ ∀ r ∈ records, Fits r := by
  constructor
  · intro h
    obtain ⟨file, hopen⟩ := h 0
    obtain ⟨body, read, behind, hcontent, hread, hsame⟩ :=
      (openAt_accounts hnode hopen).1.decodes_of_loaded
    obtain ⟨-, hbody⟩ := List.cons_eq_cons.1 hcontent
    rw [← hbody, ← List.append_nil (records.flatMap bytesOf)] at hread
    exact fits_of_decodes hread hsame
  · intro hfits later
    exact ⟨_, openAt_of_content hnode hfits later⟩

theorem settled_iff {now : UInt64} {content : Bytes} {shelf after : Shelf} {found : Opened α}
    (hnode : shelf.node = .file content)
    (h : RecordFile.openAt now shelf = (.ok found, after)) :
    Settled found.records after ↔ found.outcome.InPlace ∨ ∀ r ∈ found.records, Fits r := by
  obtain ⟨haccounts, hleaves⟩ := openAt_leaves hnode h
  by_cases hin : found.outcome.InPlace
  · exact ⟨fun _ => .inl hin, fun _ => hleaves.settled hin⟩
  · -- The file was written anew from the records as they were read, whatever bytes they came from.
    have hfits := settled_iff_fits (hleaves.content hin)
    rw [haccounts.stored] at hfits
    rw [hfits]
    exact ⟨.inr, fun hor => hor.resolve_left hin⟩

/-- A second opening finds the records of the first and changes nothing, exactly if the first one
left the file in place or the records it wrote anew are within the limits. -/
theorem reopening_finds_the_same_iff_in_place_or_fitting {now : UInt64} {content : Bytes}
    {shelf : Shelf} (hnode : shelf.node = .file content) :
    (∀ (found : Opened Ban.Entry) (after : Shelf),
      RecordFile.openAt now shelf = (.ok found, after) →
        (Settled found.records after ↔ found.outcome.InPlace ∨ ∀ b ∈ found.records, Fits b)) ∧
      ∀ (found : Opened Ladder.Entry) (after : Shelf),
        RecordFile.openAt now shelf = (.ok found, after) →
          (Settled found.records after ↔ found.outcome.InPlace ∨ ∀ e ∈ found.records, Fits e) :=
  ⟨fun _ _ h => settled_iff hnode h, fun _ _ h => settled_iff hnode h⟩

theorem reopening_finds_the_same_iff_in_place_or_fitting_after_losses :
    let named : Bytes := [4, 1, 128] ++ List.replicate 28 0 ++ [32] ++ List.replicate 4 0 ++
      [1, 0, 0, 0, 255] ++ List.replicate 16 0
    let bans : List Ban.Entry := [{ issued := 0, name := "\uFFFD" }]
    let entries : List Ladder.Entry := []
    (RecordFile.openAt 7 ⟨.file named, [], false⟩ =
        (.ok ⟨⟨63, [1]⟩, bans, .upgraded 4⟩, ⟨.file (contentOf bans), [], false⟩) ∧
      (Settled bans ⟨.file (contentOf bans), [], false⟩ ↔
        (Outcome.upgraded 4).InPlace ∨ ∀ b ∈ bans, Fits b)) ∧
    RecordFile.openAt 9 ⟨.file [1, 2, 3], [], false⟩ =
        (.ok ⟨⟨1, []⟩, entries, .truncated 1⟩, ⟨.file [1], [], false⟩) ∧
      (Settled entries ⟨.file [1], [], false⟩ ↔
        (Outcome.truncated 1).InPlace ∨ ∀ e ∈ entries, Fits e) := by
  intro named bans entries
  have hupgraded : RecordFile.openAt 7 ⟨.file named, [], false⟩ =
      (.ok ⟨⟨63, [1]⟩, bans, .upgraded 4⟩, ⟨.file (contentOf bans), [], false⟩) := rfl
  have htruncated : RecordFile.openAt 9 ⟨.file [1, 2, 3], [], false⟩ =
      (.ok ⟨⟨1, []⟩, entries, .truncated 1⟩, ⟨.file [1], [], false⟩) := rfl
  exact ⟨⟨hupgraded, (reopening_finds_the_same_iff_in_place_or_fitting rfl).1 _ _ hupgraded⟩,
    htruncated, (reopening_finds_the_same_iff_in_place_or_fitting rfl).2 _ _ htruncated⟩

def namedEntry (name : Bytes) : Bytes :=
  layout 0 (Ladder.schema.fields.take 64) blankNumbers ++ (numberBytes 4 name.length ++ name)

def entryNamed (name : Bytes) : Ladder.Entry :=
  { account := 1, name := Text.Utf8.decode name }

theorem decode_namedEntry {name : Bytes} (h : name.length ≤ longestText) (position : Nat) :
    decode 0 ⟨position, namedEntry name⟩ =
      .ok (entryNamed name, ⟨position + (namedEntry name).length, []⟩) := by
  have hkinds : blankNumbers.map Value.kind = (Ladder.schema.fields.take 64).map Field.kind := rfl
  have hnumbers : Reads (Cursor.fields 0 (Ladder.schema.fields.take 64)) _ _ :=
    Cursor.reads_fields hkinds (by decide)
  have hname : Reads (Cursor.field 0 { name := "most_recent_name", kind := .text }) _ _ :=
    (Cursor.reads_text_of_bytes h).map Value.text
  have hnone : Reads (Cursor.fields 0 []) [] [] := Reads.pure []
  have hall := Cursor.reads_fields_append hnumbers (Cursor.reads_fields_cons hname hnone)
  rw [List.append_nil] at hall
  have hfields := hall.whole position []
  rw [List.append_nil] at hfields
  exact decode_of_fields hfields rfl

theorem openAt_namedEntry {name : Bytes} (h : name.length ≤ longestText) (now : UInt64) :
    RecordFile.openAt now ⟨.file (0 :: namedEntry name), [], false⟩ =
      (.ok ⟨handleOf [entryNamed name], [entryNamed name], .upgraded 0⟩,
        ⟨.file (contentOf [entryNamed name]), [], false⟩) :=
  openAt_of_older rfl rfl (by decide) (by decide)
    (.cons (decode_namedEntry h headerLength) (.nil _)) rfl now

theorem bytesOf_entryNamed_never (n : Nat) :
    bytesOf (entryNamed (List.replicate (n + 1) 0xFF)) =
      upToName ++ numberBytes 4 ((n + 1) * 3) ++ [0xEF, 0xBF, 0xBD] ++
        Text.Utf8.encode (.ofList (List.replicate n Text.Utf8.replacement)) := by
  rw [entryNamed, Text.Utf8.decode_never]
  exact bytesOf_replicate n Text.Utf8.replacement

def frontOfGrown : Bytes :=
  upToName ++ numberBytes 4 1048578 ++ [0xEF, 0xBF, 0xBD]

set_option maxRecDepth 4000 in
theorem decode_frontOfGrown :
    decode (α := Ladder.Entry) 1 ⟨1, frontOfGrown⟩ = .error (.corrupt 281) :=
  rfl

set_option maxRecDepth 4000 in
theorem openAt_frontOfGrown :
    RecordFile.openAt (α := Ladder.Entry) 7 ⟨.file (1 :: frontOfGrown), [], false⟩ =
      (.ok ⟨⟨1, []⟩, [], .salvaged "unreadable record at byte 1: Corrupt length field at byte 281"⟩,
        ⟨.file [1], [(7, 1 :: frontOfGrown)], false⟩) :=
  rfl

/-- A name of 349526 bytes that are no UTF-8 is read, and written with three bytes for each of them.
Then it is too long to be read: even the front of what is written is taken for damaged. -/
theorem a_name_can_outgrow_its_limit_by_being_read :
    let e := entryNamed (List.replicate 349526 0xFF)
    RecordFile.openAt 7 ⟨.file (0 :: namedEntry (List.replicate 349526 0xFF)), [], false⟩ =
        (.ok ⟨handleOf [e], [e], .upgraded 0⟩, ⟨.file (contentOf [e]), [], false⟩) ∧
      1 :: frontOfGrown <+: contentOf [e] ∧
      RecordFile.openAt (α := Ladder.Entry) 7 ⟨.file (1 :: frontOfGrown), [], false⟩ =
        (.ok ⟨⟨1, []⟩, [], .salvaged
            "unreadable record at byte 1: Corrupt length field at byte 281"⟩,
          ⟨.file [1], [(7, 1 :: frontOfGrown)], false⟩) ∧
      ¬ Settled [e] ⟨.file (contentOf [e]), [], false⟩ := by
  intro e
  have hlength : (List.replicate 349526 (0xFF : UInt8)).length ≤ longestText := by
    rw [List.length_replicate]
    decide
  have hsplit : bytesOf e = frontOfGrown ++
      Text.Utf8.encode (.ofList (List.replicate 349525 Text.Utf8.replacement)) :=
    bytesOf_entryNamed_never 349525
  have hmissing := encode_replicate_ne_nil (by decide : 0 < 349525) Text.Utf8.replacement
  refine ⟨openAt_namedEntry hlength 7, ?_, openAt_frontOfGrown, fun hsettled => ?_⟩
  · rw [contentOf, List.flatMap_singleton, hsplit]
    exact ⟨_, rfl⟩
  · have hfits : ∀ r ∈ [e], Fits r := (settled_iff_fits rfl).1 hsettled
    exact not_fits_of_front hsplit hmissing decode_frontOfGrown (hfits e List.mem_cons_self)

end RemoteConsole.Store
