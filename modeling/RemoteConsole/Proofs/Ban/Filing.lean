import RemoteConsole.Proofs.Ban.Failing
import RemoteConsole.Proofs.Ban.Patching

namespace RemoteConsole.Ban

open Store

/-- The bytes begin with the flags of the ban, or with those it had before it was lifted in vain. -/
def Entry.Filed (part : Bytes) (b : Entry) : Prop :=
  2 ≤ part.length ∧ (b.flags = flagsAt 0 part ∨ b.flags = (flagsAt 0 part).remove .active)

theorem Flags.remove_remove (a b : Flags) : (a.remove b).remove b = a.remove b := by
  simp only [remove, UInt16.and_assoc, UInt16.and_self]

namespace Entry

variable {b : Entry} {part : Bytes}

theorem isActive_of_remove {flags : Flags} (h : b.flags = flags.remove .active) :
    b.isActive = false := by
  have hlift : b.isActive = ({ b with flags } : Entry).lift.isActive := by
    rw [isActive, isActive, lift, h]
  rw [hlift, isActive_lift]

theorem Filed.flags (h : Filed part b) (hactive : b.isActive) : flagsAt 0 part = b.flags := by
  rcases h.2 with hsame | hlifted
  · exact hsame.symm
  · rw [isActive_of_remove hlifted] at hactive
    cases hactive

theorem Filed.lift (h : Filed part b) : Filed (clearedAt 0 part) b.lift := by
  refine ⟨(length_clearedAt 0 part).symm ▸ h.1, .inl ?_⟩
  rw [flagsAt_clearedAt h.1]
  rcases h.2 with hsame | hlifted
  · rw [Entry.lift, hsame]
  · rw [Entry.lift, hlifted, Flags.remove_remove]

theorem Filed.lift_in_vain (h : Filed part b) : Filed part b.lift := by
  refine ⟨h.1, .inr ?_⟩
  rcases h.2 with hsame | hlifted
  · rw [Entry.lift, hsame]
  · rw [Entry.lift, hlifted, Flags.remove_remove]

theorem filed_bytesOf (b : Entry) : Filed (bytesOf b) b :=
  ⟨two_le_bytesOf b, .inl (flagsAt_word b.flags ((Record.values b).tail.flatMap Value.bytes)).symm⟩

end Entry

namespace Book

structure Filed (book : Book) (shelf : Shelf) (parts : List Bytes) : Prop where
  parted : book.file.Parted shelf schema.current parts
  entries : List.Forall₂ Entry.Filed parts book.entries

variable {book : Book} {shelf : Shelf} {parts : List Bytes}

theorem Filed.of_node (h : book.Filed shelf parts) {other : Shelf}
    (hnode : other.node = shelf.node) : book.Filed other parts where
  parted := h.parted.of_node hnode
  entries := h.entries

theorem filed_of_openAt {now : UInt64} {after : Shelf}
    (h : Book.openAt now shelf = (.ok book, after)) : ∃ parts, book.Filed after parts := by
  unfold Book.openAt at h
  split at h
  · cases h
  · rename_i found _ hfound
    cases h
    obtain ⟨parts, hparted, himages, hanew⟩ := RecordFile.parted_of_openAt hfound
    refine ⟨parts, hparted, ?_⟩
    by_cases hin : found.outcome.InPlace
    · refine (himages hin).imp fun part b himage => ?_
      obtain ⟨hsize, hflags, -⟩ := image_flags himage
      exact ⟨hsize, .inl hflags.symm⟩
    · rw [hanew hin, List.forall₂_map_left_iff, List.forall₂_same]
      exact fun b _ => b.filed_bytesOf

theorem openAt_of_error {now : UInt64} {e : Failure} {after : Shelf}
    (h : Book.openAt now shelf = (.error e, after)) : after = shelf := by
  unfold Book.openAt at h
  split at h
  · rename_i hfound
    cases h
    exact RecordFile.openAt_of_error hfound
  · cases h

theorem Filed.enter (h : book.Filed shelf parts) (b : Entry) :
    ∃ parts, (book.enter b shelf).2.1.Filed (book.enter b shelf).2.2 parts := by
  rw [Book.enter, h.parted.append]
  split
  · rename_i heq
    split at heq
    · cases heq
      exact ⟨parts, h⟩
    · cases heq
  · rename_i heq
    split at heq
    · cases heq
    · cases heq
      refine ⟨parts ++ [bytesOf b], h.parted.grow (bytesOf b), ?_⟩
      exact List.rel_append h.entries (.cons b.filed_bytesOf .nil)

section Deactivate

variable {index : Nat} {b : Entry} {part : Bytes}

theorem Filed.exists_part (h : book.Filed shelf parts) (hb : book.entries[index]? = some b) :
    ∃ part, parts[index]? = some part ∧ Entry.Filed part b :=
  forall₂_getElem? h.entries hb

theorem Filed.lift_in_vain (h : book.Filed shelf parts) (hpart : parts[index]? = some part)
    (hfiled : Entry.Filed part b) :
    Book.Filed { book with entries := book.entries.set index b.lift } shelf parts where
  parted := h.parted
  entries := by
    have hset := forall₂_set h.entries hfiled.lift_in_vain index
    obtain ⟨hindex, hget⟩ := List.getElem?_eq_some_iff.1 hpart
    rwa [← hget, List.set_getElem_self] at hset

theorem Filed.lift (h : book.Filed shelf parts) (hpart : parts[index]? = some part)
    (hfiled : Entry.Filed part b) :
    Book.Filed { book with entries := book.entries.set index b.lift }
      { shelf with
        node := .file (schema.current :: (parts.set index (clearedAt 0 part)).flatten) }
      (parts.set index (clearedAt 0 part)) where
  parted := h.parted.set hpart (length_clearedAt 0 part)
  entries := forall₂_set h.entries hfiled.lift index

theorem Filed.deactivate_eq (h : book.Filed shelf parts) (hb : book.entries[index]? = some b)
    (hactive : b.isActive) (hpart : parts[index]? = some part) (hfiled : Entry.Filed part b) :
    book.deactivate index shelf =
      if shelf.locked then
        (.error .io, { book with entries := book.entries.set index b.lift }, shelf)
      else
        (.ok true, { book with entries := book.entries.set index b.lift }, { shelf with
          node := .file (schema.current :: (parts.set index (clearedAt 0 part)).flatten) }) :=
  deactivate_of_parted h.parted hb hactive hpart hfiled.1 (hfiled.flags hactive)

theorem Filed.deactivate (h : book.Filed shelf parts) (index : Nat) :
    ∃ parts, (book.deactivate index shelf).2.1.Filed (book.deactivate index shelf).2.2 parts := by
  cases hb : book.entries[index]? with
  | none =>
      rw [deactivate_of_beyond shelf hb]
      exact ⟨parts, h⟩
  | some b =>
      cases hactive : b.isActive with
      | false =>
          rw [deactivate_of_inactive shelf hb hactive]
          exact ⟨parts, h⟩
      | true =>
          obtain ⟨part, hpart, hfiled⟩ := h.exists_part hb
          rw [h.deactivate_eq hb hactive hpart hfiled]
          split
          · exact ⟨parts, h.lift_in_vain hpart hfiled⟩
          · exact ⟨_, h.lift hpart hfiled⟩

end Deactivate

section Amid

variable {others : Nat → Shelf → Shelf} (hothers : ∀ i shelf, (others i shelf).node = shelf.node)
include hothers

theorem Filed.deactivateAllAmid (h : book.Filed shelf parts) (indices : List Nat) :
    ∃ parts, (book.deactivateAllAmid others indices shelf).2.1.Filed
      (book.deactivateAllAmid others indices shelf).2.2 parts := by
  induction indices generalizing book shelf parts with
  | nil => exact ⟨parts, h⟩
  | cons index indices ih =>
      obtain ⟨between, hbetween⟩ := (h.of_node (hothers index shelf)).deactivate index
      rw [Book.deactivateAllAmid]
      split
      · rename_i heq
        rw [heq] at hbetween
        exact ⟨between, hbetween⟩
      · rename_i heq
        rw [heq] at hbetween
        exact ih hbetween

theorem Filed.checkAmid (h : book.Filed shelf parts) (now : UInt64) (p : Match.Player) :
    ∃ parts, (book.checkAmid others now p shelf).2.1.Filed
      (book.checkAmid others now p shelf).2.2 parts := by
  have hall := h.deactivateAllAmid hothers (book.expired now p)
  rw [Book.checkAmid]
  split <;> rename_i heq <;> rw [heq] at hall <;> exact hall

end Amid

end Book

/-- Whatever is done with a book, and whether or not that fails, its file holds all bans of its list
in their places. -/
theorem Step.filed_runAmid {others : Nat → Shelf → Shelf}
    (hothers : ∀ i shelf, (others i shelf).node = shelf.node) {book : Book} {shelf : Shelf}
    {parts : List Bytes} (h : book.Filed shelf parts) (s : Step) :
    ∃ parts, (s.runAmid others book shelf).2.1.Filed (s.runAmid others book shelf).2.2 parts := by
  cases s with
  | add now p banner reason duration kinds annotate => exact h.enter _
  | enter b => exact h.enter b
  | deactivate index => exact h.deactivate index
  | check now p => exact h.checkAmid hothers now p
  | reopen now =>
      simp only [runAmid, run]
      split
      · rename_i hopen
        rw [Book.openAt_of_error hopen]
        exact ⟨parts, h⟩
      · rename_i hopen
        exact Book.filed_of_openAt hopen

/-- A book that was opened, and what became of it while nobody else changed the file. It may have
been locked at times. -/
inductive Undisturbed : Book → Shelf → Prop
  | opened {now : UInt64} {shelf after : Shelf} {book : Book}
      (h : Book.openAt now shelf = (.ok book, after)) : Undisturbed book after
  | meanwhile {book : Book} {shelf other : Shelf} (h : Undisturbed book shelf)
      (hnode : other.node = shelf.node) : Undisturbed book other
  | stepped {book : Book} {shelf : Shelf} {others : Nat → Shelf → Shelf}
      (h : Undisturbed book shelf) (hothers : ∀ i shelf, (others i shelf).node = shelf.node)
      (s : Step) : Undisturbed (s.runAmid others book shelf).2.1 (s.runAmid others book shelf).2.2

theorem Undisturbed.filed {book : Book} {shelf : Shelf} (h : Undisturbed book shelf) :
    ∃ parts, book.Filed shelf parts := by
  induction h with
  | opened h => exact Book.filed_of_openAt h
  | meanwhile h hnode ih =>
      obtain ⟨parts, hfiled⟩ := ih
      exact ⟨parts, hfiled.of_node hnode⟩
  | stepped h hothers s ih =>
      obtain ⟨parts, hfiled⟩ := ih
      exact s.filed_runAmid hothers hfiled

end RemoteConsole.Ban
