import RemoteConsole.Proofs.Store.Interruption
import RemoteConsole.Proofs.Store.Opening

namespace RemoteConsole.Store

/-- All of a content is still there, in the file or in a backup. -/
def Shelf.Keeps (shelf : Shelf) (content : Bytes) : Prop :=
  shelf.node = .file content ∨ ∃ time, (time, content) ∈ shelf.backups

/-- The bytes from record `k` on, where those of this record were overwritten. -/
def damagedFrom (parts : List Bytes) (k : Nat) (damaged : Bytes) : Bytes :=
  damaged ++ (parts.drop (k + 1)).flatten

def damagedBody (parts : List Bytes) (k : Nat) (damaged : Bytes) : Bytes :=
  (parts.take k).flatten ++ damagedFrom parts k damaged

variable {α : Type} [Record α]

/-- From a cursor on, the first record that cannot be read asks for bytes behind the end. An append
that was interrupted looks the same. -/
def RunsPastEnd (α : Type) [Record α] (c : Cursor) : Prop :=
  ∃ (read : List (Nat × α)) (behind : Cursor) (last : Nat),
    Decodes (Record.schema α).current c read behind ∧ behind.rest ≠ [] ∧
      decode (α := α) (Record.schema α).current behind = .error (.truncated last)

variable [Storable α]

theorem runsPastEnd_iff {c behind : Cursor} {read : List (Nat × α)} {stop : Option Stop}
    (hread : Decodes (Record.schema α).current c read behind)
    (hends : Ends α (Record.schema α).current behind stop) :
    RunsPastEnd α c ↔ ∃ offset, stop = some (.torn offset) := by
  constructor
  · rintro ⟨read', behind', last, hread', hrest, hdecode⟩
    exact ⟨_, (ends_unique supports_current hread hends hread' (.torn hrest hdecode)).2⟩
  · rintro ⟨offset, rfl⟩
    cases hends with
    | torn hrest hdecode => exact ⟨read, behind, _, hread, hrest, hdecode⟩

theorem decodes_damaged {records : List α} (hfits : ∀ r ∈ records, Fits r) (k : Nat)
    (damaged : Bytes) :
    ∃ (read : List (Nat × α)) (behind : Cursor) (stop : Option Stop),
      Decodes (Record.schema α).current
        ⟨headerLength, damagedBody (records.map bytesOf) k damaged⟩
        (placed headerLength (records.take k) ++ read) behind ∧
      Decodes (Record.schema α).current
        ⟨boundary (records.map bytesOf) k, damagedFrom (records.map bytesOf) k damaged⟩
        read behind ∧
      Ends α (Record.schema α).current behind stop := by
  have hkept : ∀ q ∈ records.take k, Fits q := fun q hq => hfits q (List.mem_of_mem_take hq)
  have hbefore := decodes_placed hkept headerLength (damagedFrom (records.map bytesOf) k damaged)
  obtain ⟨behind, hafter, hends⟩ := scanFrom_decodes (α := α) supports_current _
    ⟨boundary (records.map bytesOf) k, damagedFrom (records.map bytesOf) k damaged⟩
    (Nat.le_refl _)
  rw [List.flatMap_def, List.map_take, ← boundary] at hbefore
  exact ⟨_, behind, _, hbefore.append hafter, hafter, hends⟩

theorem take_position_ne {version : UInt8} (hversion : (Record.schema α).supports version)
    {body : Bytes} {read : List (Nat × α)} {behind : Cursor}
    (hread : Decodes version ⟨headerLength, body⟩ read behind) (hrest : behind.rest ≠ [])
    (head : UInt8) : (head :: body).take behind.position ≠ head :: body := by
  intro h
  obtain ⟨taken, hbody, hposition, -⟩ := hread.takes hversion
  have hlength := congrArg List.length h
  have hpos := List.length_pos_iff.2 hrest
  simp only at hbody hposition
  rw [List.length_take, List.length_cons, hposition, hbody, List.length_append, headerLength]
    at hlength
  omega

theorem opening_damaged {records : List α} (hfits : ∀ r ∈ records, Fits r) {k : Nat}
    {damaged : Bytes} {now : UInt64} {shelf after : Shelf} {found : Opened α}
    (hnode : shelf.node =
      .file ((Record.schema α).current :: damagedBody (records.map bytesOf) k damaged))
    (hopen : RecordFile.openAt now shelf = (.ok found, after)) :
    (∃ rest, found.records = (records.take k).map Storable.stored ++ rest) ∧
      (after.Keeps ((Record.schema α).current :: damagedBody (records.map bytesOf) k damaged) ↔
        ¬ RunsPastEnd α
            ⟨boundary (records.map bytesOf) k, damagedFrom (records.map bytesOf) k damaged⟩ ∨
          ∃ time, (time, (Record.schema α).current ::
            damagedBody (records.map bytesOf) k damaged) ∈ shelf.backups) := by
  obtain ⟨read, behind, stop, hall, hlater, hends⟩ := decodes_damaged hfits k damaged
  rw [runsPastEnd_iff hlater hends]
  have hstart (rest : List (Nat × α)) :
      (placed headerLength (records.take k) ++ rest).map Prod.snd =
        (records.take k).map Storable.stored ++ rest.map Prod.snd := by
    rw [List.map_append, placed_records]
  have haccounts := (openAt_accounts hnode hopen).1
  generalize damagedBody (records.map bytesOf) k damaged = body at *
  obtain ⟨file, kept, outcome⟩ := found
  simp only at haccounts ⊢
  cases haccounts with
  | reset hversion => simp [supports_current] at hversion
  | upgraded _ hold | upgradedTorn _ hold => exact absurd hold (UInt8.lt_irrefl _)
  | loaded hread hrest hafter =>
      obtain ⟨rfl, rfl⟩ := ends_unique supports_current hall hends hread (.done hrest)
      refine ⟨⟨_, hstart read⟩, fun _ => .inl ?_, fun _ => .inl hafter⟩
      rintro ⟨offset, ⟨⟩⟩
  | truncated hread hrest hstop hafter hbackups =>
      obtain ⟨rfl, rfl⟩ := ends_unique supports_current hall hends hread (.torn hrest hstop)
      have hcut := take_position_ne supports_current hread hrest (Record.schema α).current
      refine ⟨⟨_, hstart read⟩, fun hkeeps => .inr ?_, fun hor => .inr ?_⟩
      · rcases hkeeps with hfile | hbackup
        · rw [hafter] at hfile
          exact absurd (Node.file.inj hfile) hcut
        · rwa [hbackups] at hbackup
      · rcases hor with hnot | hbackup
        · exact absurd ⟨_, rfl⟩ hnot
        · rwa [hbackups]
  | salvaged _ hread hrest hstop he hbackup =>
      obtain ⟨rfl, rfl⟩ := ends_unique supports_current hall hends hread (.corrupt hrest hstop he)
      refine ⟨⟨_, hstart read⟩, fun _ => .inl ?_, fun _ => .inr ⟨now, hbackup⟩⟩
      rintro ⟨offset, ⟨⟩⟩

/-- Whichever bytes stand where record `k` was, the records before it come back, and the content is
kept unless the damage looks like an interrupted append. -/
def KeptUnlessPastEnd (records : List α) : Prop :=
  ∃ parts, RecordFile.encodeAll records = .ok parts ∧
    ∀ k damaged now shelf after (found : Opened α),
      shelf.node = .file ((Record.schema α).current :: damagedBody parts k damaged) →
      RecordFile.openAt now shelf = (.ok found, after) →
      (∃ rest, found.records = (records.take k).map Storable.stored ++ rest) ∧
        (after.Keeps ((Record.schema α).current :: damagedBody parts k damaged) ↔
          ¬ RunsPastEnd α ⟨boundary parts k, damagedFrom parts k damaged⟩ ∨
            ∃ time, (time, (Record.schema α).current :: damagedBody parts k damaged) ∈
              shelf.backups)

theorem keptUnlessPastEnd {records : List α} (hfits : ∀ r ∈ records, Fits r) :
    KeptUnlessPastEnd records :=
  ⟨records.map bytesOf, encodeAll_eq records, fun _ _ _ _ _ _ hnode hopen =>
    opening_damaged hfits hnode hopen⟩

/-- Damage costs later records, with no backup of them, exactly where the first record that cannot
be read from there on asks for bytes behind the end of the file. -/
theorem damage_kept_iff_not_past_end {bans : List Ban.Entry} {entries : List Ladder.Entry}
    (hbans : ∀ b ∈ bans, Fits b) (hentries : ∀ e ∈ entries, Fits e) :
    KeptUnlessPastEnd bans ∧ KeptUnlessPastEnd entries :=
  ⟨keptUnlessPastEnd hbans, keptUnlessPastEnd hentries⟩

theorem damage_kept_iff_not_past_end_of_two :
    ((∀ b ∈ [({ issued := 1 } : Ban.Entry), { issued := 2 }], Fits b) ∧
      KeptUnlessPastEnd [({ issued := 1 } : Ban.Entry), { issued := 2 }]) ∧
    (∀ e ∈ [({ account := 3 } : Ladder.Entry), { account := 4 }], Fits e) ∧
      KeptUnlessPastEnd [({ account := 3 } : Ladder.Entry), { account := 4 }] := by
  have hbans : ∀ b ∈ [({ issued := 1 } : Ban.Entry), { issued := 2 }], Fits b := by decide
  have hentries : ∀ e ∈ [({ account := 3 } : Ladder.Entry), { account := 4 }], Fits e := by decide
  obtain ⟨hkeptBans, hkeptEntries⟩ := damage_kept_iff_not_past_end hbans hentries
  exact ⟨⟨hbans, hkeptBans⟩, hentries, hkeptEntries⟩

/-- Overwriting bytes of a record that is not the last never costs a byte of the file. -/
def DamageIsKept (α : Type) [Record α] : Prop :=
  ∀ records : List α, (∀ r ∈ records, Fits r) →
    ∀ parts, RecordFile.encodeAll records = .ok parts →
    ∀ k, k + 1 < records.length →
    ∀ damaged, parts[k]?.map List.length = some damaged.length →
    ∀ now shelf after (found : Opened α),
      shelf.node = .file ((Record.schema α).current :: damagedBody parts k damaged) →
      RecordFile.openAt now shelf = (.ok found, after) →
      after.Keeps ((Record.schema α).current :: damagedBody parts k damaged)

set_option maxRecDepth 2000 in
/-- One byte of the first of two bans, the lowest of the length of its hardware id, is enough: both
bans go as if the first had never been written to the end. -/
theorem damage_can_cost_the_whole_file : ¬ DamageIsKept Ban.Entry := by
  intro h
  have hfits : ∀ b ∈ [({ issued := 1 } : Ban.Entry), { issued := 2 }], Fits b := by decide
  have hkeeps := h _ hfits _ rfl 0 (by decide) ((bytesOf ({ issued := 1 } : Ban.Entry)).set 31 255)
    rfl 0 ⟨.file _, [], false⟩ ⟨.file [5], [], false⟩ ⟨⟨1, []⟩, [], .truncated 1⟩ rfl rfl
  rcases hkeeps with hnode | ⟨time, hbackup⟩
  · exact absurd (congrArg List.length (Node.file.inj hnode)) (by decide)
  · exact List.not_mem_nil hbackup

end RemoteConsole.Store
