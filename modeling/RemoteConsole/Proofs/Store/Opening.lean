import RemoteConsole.Proofs.Ban.Entry
import RemoteConsole.Proofs.Ladder.Entry
import RemoteConsole.Proofs.Store.Holding

namespace RemoteConsole.Store

variable {α : Type} [Record α]

/-- How the records and the outcome of opening account for a content, by what is on the shelf
then. Between the bytes that are read and those that are not stands the cursor `behind`. -/
inductive Accounts (now : UInt64) (shelf after : Shelf) : Bytes → Outcome → List α → Prop
  | created : Accounts now shelf after [] .created []
  | reset {version : UInt8} {body : Bytes} {reason : String}
      (hversion : (Record.schema α).supports version = false)
      (hbackup : (now, version :: body) ∈ after.backups) :
      Accounts now shelf after (version :: body) (.reset reason) []
  | loaded {body : Bytes} {read : List (Nat × α)} {behind : Cursor}
      (hread : Decodes (Record.schema α).current ⟨headerLength, body⟩ read behind)
      (hrest : behind.rest = [])
      (hnode : after.node = .file ((Record.schema α).current :: body))
      (hbackups : after.backups = shelf.backups) :
      Accounts now shelf after ((Record.schema α).current :: body) .loaded (read.map Prod.snd)
  | truncated {body : Bytes} {read : List (Nat × α)} {behind : Cursor} {last : Nat}
      (hread : Decodes (Record.schema α).current ⟨headerLength, body⟩ read behind)
      (hrest : behind.rest ≠ [])
      (hstop : decode (α := α) (Record.schema α).current behind = .error (.truncated last))
      (hnode : after.node = .file (((Record.schema α).current :: body).take behind.position))
      (hbackups : after.backups = shelf.backups) :
      Accounts now shelf after ((Record.schema α).current :: body) (.truncated behind.position)
        (read.map Prod.snd)
  | upgraded {version : UInt8} {body : Bytes} {read : List (Nat × α)} {behind : Cursor}
      {parts : List Bytes} (hversion : (Record.schema α).supports version)
      (hold : version < (Record.schema α).current)
      (hread : Decodes version ⟨headerLength, body⟩ read behind) (hrest : behind.rest = [])
      (hparts : RecordFile.encodeAll (read.map Prod.snd) = .ok parts)
      (hnode : after.node = .file ((Record.schema α).current :: parts.flatten))
      (hbackups : after.backups = shelf.backups) :
      Accounts now shelf after (version :: body) (.upgraded version) (read.map Prod.snd)
  | upgradedTorn {version : UInt8} {body : Bytes} {read : List (Nat × α)} {behind : Cursor}
      {last : Nat} (hversion : (Record.schema α).supports version)
      (hold : version < (Record.schema α).current)
      (hread : Decodes version ⟨headerLength, body⟩ read behind) (hrest : behind.rest ≠ [])
      (hstop : decode (α := α) version behind = .error (.truncated last))
      (hbackup : (now, version :: body) ∈ after.backups) :
      Accounts now shelf after (version :: body) (.upgraded version) (read.map Prod.snd)
  | salvaged {version : UInt8} {body : Bytes} {read : List (Nat × α)} {behind : Cursor}
      {e : Failure} {reason : String} (hversion : (Record.schema α).supports version)
      (hread : Decodes version ⟨headerLength, body⟩ read behind) (hrest : behind.rest ≠ [])
      (hstop : decode (α := α) version behind = .error e) (he : ∀ last, e ≠ .truncated last)
      (hbackup : (now, version :: body) ∈ after.backups) :
      Accounts now shelf after (version :: body) (.salvaged reason) (read.map Prod.snd)

/-- The handle knows a file of the current version: where it ends, and one offset a record. -/
def Tracks (file : RecordFile) (records : List α) (after : Shelf) : Prop :=
  ∃ body, after.node = .file ((Record.schema α).current :: body) ∧
    file.eof = ((Record.schema α).current :: body).length ∧
    file.offsets.length = records.length

/-- The file stays as it is, but for a torn end that is cut off. -/
def Outcome.InPlace : Outcome → Prop
  | .loaded | .truncated _ => True
  | .created | .upgraded _ | .reset _ | .salvaged _ => False

/-- What opening leaves behind of a file: one that was written anew, or the one that was there, up
to the last record that was read. -/
inductive Leaves (after : Shelf) : Opened α → Prop
  | anew {records : List α} {outcome : Outcome} (hin : ¬ outcome.InPlace)
      (hnode : after.node = .file (contentOf records)) :
      Leaves after ⟨handleOf records, records, outcome⟩
  | inPlace {body : Bytes} {read : List (Nat × α)} {eof : Nat} {outcome : Outcome}
      (hin : outcome.InPlace) (hnode : after.node = .file ((Record.schema α).current :: body))
      (hread : Decodes (Record.schema α).current ⟨headerLength, body⟩ read ⟨eof, []⟩) :
      Leaves after ⟨⟨eof, read.map Prod.fst⟩, read.map Prod.snd, outcome⟩

theorem Leaves.content {after : Shelf} {found : Opened α} (h : Leaves after found)
    (hin : ¬ found.outcome.InPlace) : after.node = .file (contentOf found.records) := by
  cases h with
  | anew _ hnode => exact hnode
  | inPlace hin' => exact absurd hin' hin

theorem tracks_handleOf {records : List α} {after : Shelf}
    (h : after.node = .file (contentOf records)) : Tracks (handleOf records) records after :=
  ⟨records.flatMap bytesOf, h, rfl, handleOf_offsets_length records⟩

theorem eq_current {version : UInt8} (hversion : (Record.schema α).supports version)
    (hold : ¬ version < (Record.schema α).current) : version = (Record.schema α).current := by
  simp only [Schema.supports, Bool.and_eq_true, decide_eq_true_eq] at hversion
  exact UInt8.le_antisymm hversion.2 (UInt8.not_lt.1 hold)

variable [Storable α]

theorem Leaves.tracks {after : Shelf} {found : Opened α} (h : Leaves after found) :
    Tracks found.file found.records after := by
  cases h with
  | anew hin hnode => exact tracks_handleOf hnode
  | @inPlace body read eof outcome hin hnode hread =>
      obtain ⟨taken, hbody, heof, -⟩ := hread.takes supports_current
      simp only [List.append_nil] at hbody heof
      exact ⟨body, hnode, by rw [heof, hbody, List.length_cons, headerLength, Nat.add_comm],
        by simp⟩

theorem Decodes.cut {version : UInt8} (hversion : (Record.schema α).supports version)
    {body : Bytes} {read : List (Nat × α)} {behind : Cursor}
    (hread : Decodes version ⟨headerLength, body⟩ read behind) :
    ∃ taken, (version :: body).take behind.position = version :: taken ∧
      Decodes version ⟨headerLength, taken⟩ read ⟨behind.position, []⟩ := by
  obtain ⟨taken, hbody, hposition, hreads⟩ := hread.takes hversion
  simp only at hbody hposition
  have hleft := hreads []
  rw [List.append_nil] at hleft
  refine ⟨taken, ?_, hleft⟩
  rw [hposition, hbody, headerLength, Nat.add_comm, List.take_succ_cons, List.take_left]

theorem Decodes.end_of_done {version : UInt8} (hversion : (Record.schema α).supports version)
    {body : Bytes} {read : List (Nat × α)} {behind : Cursor}
    (hread : Decodes version ⟨headerLength, body⟩ read behind) (hrest : behind.rest = []) :
    behind = ⟨headerLength + body.length, []⟩ := by
  obtain ⟨taken, hbody, hposition, -⟩ := hread.takes hversion
  obtain ⟨position, rest⟩ := behind
  simp only at hrest hbody hposition
  rw [hrest, List.append_nil] at hbody
  rw [hposition, hbody, hrest]

theorem truncate_inv {shelf cut : Shelf} {content : Bytes} {length : Nat}
    (hnode : shelf.node = .file content) (h : shelf.truncate length = .ok cut) :
    cut = { shelf with node := .file (content.take length) } := by
  simp only [Shelf.truncate, Shelf.change, hnode] at h
  split at h
  · rename_i hfile
    cases hfile
    exact (Except.ok.inj h).symm
  · cases h

theorem openBody_leaves {now : UInt64} {version : UInt8} {body : Bytes} {shelf after : Shelf}
    {found : Opened α} (hversion : (Record.schema α).supports version)
    (hnode : shelf.node = .file (version :: body))
    (h : RecordFile.openBody now version body shelf = (.ok found, after)) :
    Accounts now shelf after (version :: body) found.outcome found.records ∧
      Leaves after found := by
  obtain ⟨⟨position, rest⟩, hread, hends⟩ :=
    scanFrom_decodes (α := α) hversion body.length ⟨headerLength, body⟩ (Nat.le_refl _)
  unfold RecordFile.openBody scan at h
  generalize scanFrom (α := α) version body.length ⟨headerLength, body⟩ = scan at h hread hends
  obtain ⟨read, stop⟩ := scan
  simp only at h hread hends
  cases hends with
  | done hrest =>
      simp only at h
      split at h
      · rename_i hold
        obtain ⟨rfl, rfl⟩ := start_inv h
        exact ⟨.upgraded hversion hold hread hrest (encodeAll_eq _) rfl rfl, .anew id rfl⟩
      · rename_i hold
        obtain rfl := eq_current hversion hold
        cases h
        exact ⟨.loaded hread hrest hnode rfl,
          .inPlace trivial hnode (hread.end_of_done hversion hrest ▸ hread)⟩
  | torn hrest hstop =>
      simp only at h
      split at h
      · rename_i hold
        obtain ⟨rfl, hcontent, hbackup⟩ := restart_inv hnode h
        exact ⟨.upgradedTorn hversion hold hread hrest hstop hbackup, .anew id hcontent⟩
      · rename_i hold
        obtain rfl := eq_current hversion hold
        split at h
        · cases h
        · rename_i cut hcut
          obtain rfl := truncate_inv hnode hcut
          cases h
          obtain ⟨taken, htaken, hleft⟩ := hread.cut hversion
          exact ⟨.truncated hread hrest hstop rfl rfl,
            .inPlace trivial (congrArg Node.file htaken) hleft⟩
  | corrupt hrest hstop he =>
      obtain ⟨rfl, hcontent, hbackup⟩ := restart_inv hnode h
      exact ⟨.salvaged hversion hread hrest hstop he hbackup, .anew id hcontent⟩

theorem openAt_leaves {now : UInt64} {content : Bytes} {shelf after : Shelf} {found : Opened α}
    (hnode : shelf.node = .file content)
    (h : RecordFile.openAt now shelf = (.ok found, after)) :
    Accounts now shelf after content found.outcome found.records ∧ Leaves after found := by
  simp only [RecordFile.openAt, Shelf.read, hnode] at h
  cases content with
  | nil =>
      obtain ⟨rfl, rfl⟩ := start_inv h
      exact ⟨.created, .anew id rfl⟩
  | cons version body =>
      simp only at h
      split at h
      · rename_i hversion
        exact openBody_leaves hversion hnode h
      · rename_i hversion
        obtain ⟨rfl, hcontent, hbackup⟩ := restart_inv hnode h
        exact ⟨.reset (by simpa using hversion) hbackup, .anew id hcontent⟩

theorem leaves_of_openAt {now : UInt64} {shelf after : Shelf} {found : Opened α}
    (h : RecordFile.openAt now shelf = (.ok found, after)) : Leaves after found := by
  cases hnode : shelf.node with
  | missing =>
      simp only [RecordFile.openAt, Shelf.read, hnode] at h
      obtain ⟨rfl, rfl⟩ := start_inv h
      exact .anew id rfl
  | directory =>
      simp only [RecordFile.openAt, Shelf.read, hnode] at h
      cases h
  | file content => exact (openAt_leaves hnode h).2

theorem openAt_accounts {now : UInt64} {content : Bytes} {shelf after : Shelf} {found : Opened α}
    (hnode : shelf.node = .file content)
    (h : RecordFile.openAt now shelf = (.ok found, after)) :
    Accounts now shelf after content found.outcome found.records ∧
      Tracks found.file found.records after := by
  obtain ⟨haccounts, hleaves⟩ := openAt_leaves hnode h
  exact ⟨haccounts, hleaves.tracks⟩

/-- Whatever bytes stand in the file, opening it gives back the records that can be read, leaves a
file of the current version that its handle describes, and loses nothing in silence: what is not
in the file any more is a torn end, or all of the old content is kept in a backup. -/
theorem opening_loses_nothing_in_silence {now : UInt64} {content : Bytes} {shelf : Shelf}
    (hnode : shelf.node = .file content) :
    (∀ (found : Opened Ban.Entry) (after : Shelf),
      RecordFile.openAt now shelf = (.ok found, after) →
        Accounts now shelf after content found.outcome found.records ∧
          Tracks found.file found.records after) ∧
      ∀ (found : Opened Ladder.Entry) (after : Shelf),
        RecordFile.openAt now shelf = (.ok found, after) →
          Accounts now shelf after content found.outcome found.records ∧
            Tracks found.file found.records after :=
  ⟨fun _ _ h => openAt_accounts hnode h, fun _ _ h => openAt_accounts hnode h⟩

theorem opening_loses_nothing_in_silence_torn_upgrade :
    (RecordFile.openAt 7 ⟨.file [4, 1], [], false⟩ =
        (.ok (⟨⟨1, []⟩, [], .upgraded 4⟩ : Opened Ban.Entry),
          ⟨.file [5], [(7, [4, 1])], false⟩) ∧
      Accounts (α := Ban.Entry) 7 ⟨.file [4, 1], [], false⟩ ⟨.file [5], [(7, [4, 1])], false⟩
        [4, 1] (.upgraded 4) [] ∧
      Tracks (α := Ban.Entry) ⟨1, []⟩ [] ⟨.file [5], [(7, [4, 1])], false⟩) ∧
    RecordFile.openAt 9 ⟨.file [0, 2, 3], [], false⟩ =
        (.ok (⟨⟨1, []⟩, [], .upgraded 0⟩ : Opened Ladder.Entry),
          ⟨.file [1], [(9, [0, 2, 3])], false⟩) ∧
      Accounts (α := Ladder.Entry) 9 ⟨.file [0, 2, 3], [], false⟩
        ⟨.file [1], [(9, [0, 2, 3])], false⟩ [0, 2, 3] (.upgraded 0) [] ∧
      Tracks (α := Ladder.Entry) ⟨1, []⟩ [] ⟨.file [1], [(9, [0, 2, 3])], false⟩ := by
  have hbans := (@opening_loses_nothing_in_silence 7 [4, 1] ⟨.file [4, 1], [], false⟩ rfl).1
    ⟨⟨1, []⟩, [], .upgraded 4⟩ _ rfl
  have hladder := (@opening_loses_nothing_in_silence 9 [0, 2, 3] ⟨.file [0, 2, 3], [], false⟩
    rfl).2 ⟨⟨1, []⟩, [], .upgraded 0⟩ _ rfl
  exact ⟨⟨rfl, hbans⟩, rfl, hladder⟩

end RemoteConsole.Store
