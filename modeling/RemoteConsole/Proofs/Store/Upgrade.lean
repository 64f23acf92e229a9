import RemoteConsole.Proofs.Store.Settling

namespace RemoteConsole.Ban

def Entry.ofVersion3 (b : Entry) : Entry :=
  { b with networkBits := 32, hardwareId := "" }

def Entry.ofVersion4 (b : Entry) : Entry :=
  { b with hardwareId := "" }

end RemoteConsole.Ban

namespace RemoteConsole.Ladder

def Entry.ofVersion0 (e : Entry) : Entry :=
  { e with totals := { e.totals with ties := 0 }, sideA := {}, sideB := {}, rank := 0 }

end RemoteConsole.Ladder

namespace RemoteConsole.Store

variable {α : Type} [Record α]

def layoutOf (version : UInt8) (r : α) : Bytes :=
  layout version (Record.schema α).fields (Record.values r)

/-- The version holds `old r` of every record `r`, with every other field at its default. -/
def Keeps (version : UInt8) (old : α → α) : Prop :=
  ∀ r, Record.ofValues? (asRead version (Record.schema α).fields (Record.values r)) = some (old r)

/-- Appends one record after the other, up to one that is refused. -/
def RecordFile.appendAll : List α → RecordFile → Shelf → OnShelf RecordFile
  | [], file, shelf => (.ok file, shelf)
  | r :: rs, file, shelf =>
    match file.append r shelf with
    | (.error e, shelf) => (.error e, shelf)
    | (.ok (_, file), shelf) => appendAll rs file shelf

theorem fits_absent (f : Field) : f.absent.Fits := by
  obtain ⟨name, kind, since, fallback⟩ := f
  cases kind with
  | byte | word16 | word32 | word64 => trivial
  | text => exact Nat.zero_le _
  | table => exact ⟨Nat.zero_le _, fun p hp => absurd hp List.not_mem_nil⟩

theorem fits_asRead {version : UInt8} {fs : List Field} {vs : List Value}
    (hfits : ∀ v ∈ vs, v.Fits) : ∀ v ∈ asRead version fs vs, v.Fits := by
  induction fs generalizing vs with
  | nil => exact fun v hv => absurd hv List.not_mem_nil
  | cons f fs ih =>
      cases vs with
      | nil => exact fun v hv => absurd hv List.not_mem_nil
      | cons v vs =>
          have hrest := ih fun w hw => hfits w (List.mem_cons_of_mem _ hw)
          refine List.forall_mem_cons.2 ⟨?_, hrest⟩
          split
          · exact fits_absent f
          · exact hfits v List.mem_cons_self

section Storable

variable [Storable α]

theorem decode_layoutOf {version : UInt8} {old : α → α} (hkeeps : Keeps version old) {r : α}
    (hfits : Fits r) (position : Nat) (rest : Bytes) :
    decode version ⟨position, layoutOf version r ++ rest⟩ =
      .ok (old r, ⟨position + (layoutOf version r).length, rest⟩) :=
  decode_of_fields ((Cursor.reads_fields (Storable.kinds r) hfits).whole position rest) (hkeeps r)

theorem openAt_of_layouts {version : UInt8} {old : α → α} (hkeeps : Keeps version old)
    (hversion : (Record.schema α).supports version) (hold : version < (Record.schema α).current)
    {records : List α} (hfits : ∀ r ∈ records, Fits r) {shelf : Shelf}
    (hlocked : shelf.locked = false)
    (hnode : shelf.node = .file (version :: records.flatMap (layoutOf version))) (now : UInt64) :
    RecordFile.openAt now shelf =
      (.ok ⟨handleOf (records.map old), records.map old, .upgraded version⟩,
        { shelf with node := .file (contentOf (records.map old)) }) := by
  have hread := decodes_flatMap (fun r hr => decode_layoutOf hkeeps (hfits r hr)) headerLength []
  rw [List.append_nil] at hread
  have hopen := openAt_of_older hlocked hnode hversion hold hread rfl now
  rwa [List.map_snd_zip (by simp [offsetsFrom_length])] at hopen

theorem appendAll_of_holds {shelf : Shelf} {records : List α} (h : shelf.Holds records)
    (more : List α) :
    RecordFile.appendAll more (handleOf records) shelf =
      (.ok (handleOf (records ++ more)),
        { shelf with node := .file (contentOf (records ++ more)) }) := by
  induction more generalizing records shelf with
  | nil => simp only [RecordFile.appendAll, List.append_nil, ← h.2]
  | cons r rs ih =>
      have hgrown : Shelf.Holds { shelf with node := .file (contentOf (records ++ [r])) }
          (records ++ [r]) := ⟨h.1, rfl⟩
      rw [List.append_cons, RecordFile.appendAll, append_of_holds h r]
      exact ih hgrown

end Storable

section Faithful

variable [Faithful α]

theorem Keeps.fits {version : UInt8} {old : α → α} (hkeeps : Keeps version old) {r : α}
    (hfits : Fits r) : Fits (old r) := by
  rw [Fits, Faithful.values_of_ofValues (hkeeps r)]
  exact fits_asRead hfits

variable [Storable α]

theorem Keeps.stored {version : UInt8} {old : α → α} (hkeeps : Keeps version old)
    (records : List α) : (records.map old).map Storable.stored = records.map old := by
  rw [List.map_map]
  exact List.map_congr_left fun r _ => stored_of_ofValues (hkeeps r)

/-- Opening a file of these records in the layout of an older version gives back all of them and
makes no backup. The file is one of the current version then. Others can be appended, and all are
found again exactly if `found` holds of those. -/
def UpgradesWhole (version : UInt8) (old : α → α) (found : List α → Prop) (records : List α) :
    Prop :=
  ∀ now shelf, shelf.locked = false →
    shelf.node = .file (version :: records.flatMap (layoutOf version)) →
    ∃ file after,
      RecordFile.openAt now shelf = (.ok ⟨file, records.map old, .upgraded version⟩, after) ∧
      after.backups = shelf.backups ∧
      (∃ body, after.node = .file ((Record.schema α).current :: body)) ∧
      ∀ more : List α, ∃ grownFile grown,
        RecordFile.appendAll more file after = (.ok grownFile, grown) ∧
          (Settled (records.map old ++ more.map Storable.stored) grown ↔ found more)

theorem Keeps.settled_iff {version : UInt8} {old : α → α} (hkeeps : Keeps version old)
    {records : List α} (hfits : ∀ r ∈ records, Fits r) {more : List α} {shelf : Shelf}
    (hnode : shelf.node = .file (contentOf (records.map old ++ more))) :
    Settled (records.map old ++ more.map Storable.stored) shelf ↔ ∀ r ∈ more, Fits r := by
  have hupgraded : ∀ r ∈ records.map old, Fits r := by
    intro r hr
    obtain ⟨q, hq, rfl⟩ := List.mem_map.1 hr
    exact hkeeps.fits (hfits q hq)
  have hall := settled_iff_fits hnode
  rw [List.map_append, hkeeps.stored, List.forall_mem_append] at hall
  exact hall.trans (and_iff_right hupgraded)

theorem upgradesWhole {version : UInt8} {old : α → α} (hkeeps : Keeps version old)
    (hversion : (Record.schema α).supports version) (hold : version < (Record.schema α).current)
    {records : List α} (hfits : ∀ r ∈ records, Fits r) :
    UpgradesWhole version old (fun more => ∀ r ∈ more, Fits r) records := by
  intro now shelf hlocked hnode
  refine ⟨_, _, openAt_of_layouts hkeeps hversion hold hfits hlocked hnode now, rfl, ⟨_, rfl⟩, ?_⟩
  intro more
  have hholds : Shelf.Holds { shelf with node := .file (contentOf (records.map old)) }
      (records.map old) := ⟨hlocked, rfl⟩
  exact ⟨_, _, appendAll_of_holds hholds more, hkeeps.settled_iff hfits rfl⟩

end Faithful

/-- No version that can be read loses anything by being upgraded, and what is appended then is found
again behind it if it is within the limits, and only then. -/
theorem upgrading_loses_nothing {bans : List Ban.Entry} {entries : List Ladder.Entry}
    (hbans : ∀ b ∈ bans, Fits b) (hentries : ∀ e ∈ entries, Fits e) :
    UpgradesWhole 3 Ban.Entry.ofVersion3 (fun more => ∀ b ∈ more, Fits b) bans ∧
      UpgradesWhole 4 Ban.Entry.ofVersion4 (fun more => ∀ b ∈ more, Fits b) bans ∧
        UpgradesWhole 0 Ladder.Entry.ofVersion0 (fun more => ∀ e ∈ more, Fits e) entries :=
  ⟨upgradesWhole (fun _ => rfl) (by decide) (by decide) hbans,
    upgradesWhole (fun _ => rfl) (by decide) (by decide) hbans,
    upgradesWhole (fun _ => rfl) (by decide) (by decide) hentries⟩

theorem upgrading_loses_nothing_of_two :
    let bans : List Ban.Entry := [{ issued := 1, networkBits := 24, name := "é" }, { issued := 2 }]
    let entries : List Ladder.Entry := [{ account := 3, totals := { kills := 5, ties := 1 } }]
    ((∀ b ∈ bans, Fits b) ∧ ∀ e ∈ entries, Fits e) ∧
      UpgradesWhole 3 Ban.Entry.ofVersion3 (fun more => ∀ b ∈ more, Fits b) bans ∧
        UpgradesWhole 4 Ban.Entry.ofVersion4 (fun more => ∀ b ∈ more, Fits b) bans ∧
          UpgradesWhole 0 Ladder.Entry.ofVersion0 (fun more => ∀ e ∈ more, Fits e) entries := by
  intro bans entries
  have hbans : ∀ b ∈ bans, Fits b := by decide
  have hentries : ∀ e ∈ entries, Fits e := by decide
  exact ⟨⟨hbans, hentries⟩, upgrading_loses_nothing hbans hentries⟩

/-- The rank of an entry is its place on the ladder, and stands in no file. -/
theorem the_rank_of_an_appended_entry_is_not_found_again :
    let old : Ladder.Entry := { account := 3, name := "c" }
    let e : Ladder.Entry := { account := 7, rank := 5 }
    let shelf : Shelf := ⟨.file (0 :: layoutOf 0 old), [], false⟩
    let grown : Shelf := ⟨.file (contentOf [old, e]), [], false⟩
    RecordFile.openAt 7 shelf =
        (.ok ⟨handleOf [old], [old], .upgraded 0⟩, ⟨.file (contentOf [old]), [], false⟩) ∧
      (handleOf [old]).append e ⟨.file (contentOf [old]), [], false⟩ =
        (.ok ((contentOf [old]).length, handleOf [old, e]), grown) ∧
      RecordFile.openAt 7 grown =
        (.ok ⟨handleOf [old, e], [old, { e with rank := 0 }], .loaded⟩, grown) ∧
      ({ e with rank := 0 } : Ladder.Entry) ≠ e := by
  intro old e shelf grown
  have hkeeps : Keeps 0 Ladder.Entry.ofVersion0 := fun _ => rfl
  have hold : ∀ r ∈ [old], Fits r := by decide
  have hall : ∀ r ∈ [old, e], Fits r := by decide
  have hnode : shelf.node = .file (0 :: [old].flatMap (layoutOf 0)) := by
    rw [List.flatMap_singleton]
  exact ⟨openAt_of_layouts hkeeps (by decide) (by decide) hold rfl hnode 7,
    append_of_holds ⟨rfl, rfl⟩ e, openAt_of_content rfl hall 7, by decide⟩

end RemoteConsole.Store
