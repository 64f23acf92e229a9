import RemoteConsole.Proofs.Store.Settling

namespace RemoteConsole.Store

/-- The old file was given up, and a new one written from the records that were read. -/
def Outcome.Replaces : Outcome → Prop
  | .upgraded _ | .reset _ | .salvaged _ => True
  | .created | .loaded | .truncated _ => False

theorem Outcome.created_or_inPlace {outcome : Outcome} (h : ¬ outcome.Replaces) :
    outcome = .created ∨ outcome.InPlace := by
  cases outcome with
  | created => exact .inl rfl
  | loaded | truncated => exact .inr trivial
  | upgraded | reset | salvaged => exact absurd trivial h

variable {α : Type} [Record α]

/-- The file on the shelf holds these records and nothing else, and the handle knows its end. -/
inductive Continues (file : RecordFile) (shelf : Shelf) : List α → Prop
  | intro {body : Bytes} {read : List (Nat × α)} {behind : Cursor}
      (hnode : shelf.node = .file ((Record.schema α).current :: body))
      (heof : file.eof = ((Record.schema α).current :: body).length)
      (hread : Decodes (Record.schema α).current ⟨headerLength, body⟩ read behind)
      (hrest : behind.rest = []) : Continues file shelf (read.map Prod.snd)

variable [Storable α]

theorem Continues.settled {file : RecordFile} {shelf : Shelf} {records : List α}
    (h : Continues file shelf records) : Settled records shelf := by
  obtain ⟨hnode, -, hread, hrest⟩ := h
  exact fun later => ⟨_, openAt_of_decodes hnode hread hrest later⟩

theorem Settled.continues {file : RecordFile} {shelf : Shelf} {records : List α} {content : Bytes}
    (h : Settled records shelf) (hnode : shelf.node = .file content)
    (heof : file.eof = content.length) : Continues file shelf records := by
  obtain ⟨opened, hopen⟩ := h 0
  have haccounts : Accounts 0 shelf shelf content .loaded records := (openAt_accounts hnode hopen).1
  cases haccounts with
  | loaded hread hrest => exact .intro hnode heof hread hrest

theorem continues_of_content {records : List α} (hfits : ∀ r ∈ records, Fits r) {shelf : Shelf}
    (hnode : shelf.node = .file (contentOf records)) :
    Continues (handleOf records) shelf (records.map Storable.stored) := by
  have hsettled : Settled (records.map Storable.stored) shelf :=
    fun later => ⟨_, openAt_of_content hnode hfits later⟩
  exact hsettled.continues hnode rfl

theorem continues_of_openAt {now : UInt64} {shelf after : Shelf} {found : Opened α}
    (h : RecordFile.openAt now shelf = (.ok found, after)) (hkept : ¬ found.outcome.Replaces) :
    Continues found.file after found.records := by
  have hcreated (hread : shelf.read = .ok []) : Continues found.file after found.records := by
    simp only [RecordFile.openAt, hread] at h
    obtain ⟨rfl, rfl⟩ := start_inv h
    exact continues_of_content (by simp) rfl
  cases hnode : shelf.node with
  | missing => exact hcreated (by rw [Shelf.read, hnode])
  | directory =>
      simp only [RecordFile.openAt, Shelf.read, hnode] at h
      cases h
  | file content =>
      obtain ⟨haccounts, hleaves⟩ := openAt_leaves hnode h
      rcases Outcome.created_or_inPlace hkept with houtcome | hin
      · cases content with
        | nil => exact hcreated (by rw [Shelf.read, hnode])
        | cons version body =>
            rw [houtcome] at haccounts
            cases haccounts
      · obtain ⟨body, hbody, heof, -⟩ := hleaves.tracks
        exact (hleaves.settled hin).continues hbody heof

theorem Continues.append {file grown : RecordFile} {shelf after : Shelf} {records : List α}
    (h : Continues file shelf records) {r : α} (hr : Fits r) {offset : Nat}
    (happend : file.append r shelf = (.ok (offset, grown), after)) :
    Continues grown after (records ++ [Storable.stored r]) := by
  obtain @⟨body, read, behind, hnode, heof, hread, hrest⟩ := h
  simp only [RecordFile.append, encode_eq, Shelf.write, Shelf.change, hnode, heof] at happend
  cases hlocked : shelf.locked with
  | true => simp [hlocked] at happend
  | false =>
      simp only [hlocked, overlay_end] at happend
      cases happend
      obtain ⟨taken, hbody, -, hreads⟩ := hread.takes supports_current
      simp only [hrest, List.append_nil] at hbody
      have hlast := decode_whole hr behind.position []
      rw [List.append_nil] at hlast
      have hall := (hreads (bytesOf r)).append (.cons hlast (.nil _))
      rw [← hbody] at hall
      have hrecords : read.map Prod.snd ++ [Storable.stored r] =
          (read ++ [(behind.position, Storable.stored r)]).map Prod.snd := by simp
      have hend : ((Record.schema α).current :: body).length + (bytesOf r).length =
          ((Record.schema α).current :: (body ++ bytesOf r)).length := by
        simp only [← List.length_append, List.cons_append]
      rw [hrecords]
      exact .intro rfl hend hall rfl

end RemoteConsole.Store
