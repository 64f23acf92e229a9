import RemoteConsole.Proofs.Ban.Book
import RemoteConsole.Proofs.Store.Spacing

namespace RemoteConsole.Ban

open Store

namespace Flags

theorem contains_iff {a b : Flags} :
    a.contains b ↔ ∀ i < 16, b.bits.toBitVec.getLsbD i → a.bits.toBitVec.getLsbD i := by
  simp only [contains, beq_iff_eq]
  rw [← UInt16.toBitVec_inj, BitVec.eq_of_getLsbD_eq_iff]
  simp

theorem contains_union_left {a c : Flags} (h : a.contains c) (b : Flags) :
    (a.union b).contains c := by
  rw [contains_iff] at h ⊢
  intro i hi hbit
  simp [union, h i hi hbit]

theorem contains_union_right {b c : Flags} (h : b.contains c) (a : Flags) :
    (a.union b).contains c := by
  rw [contains_iff] at h ⊢
  intro i hi hbit
  simp [union, h i hi hbit]

theorem contains_none {a : Flags} : Flags.none.contains a ↔ a.isEmpty := by
  simp only [contains, none, isEmpty, UInt16.zero_and, beq_iff_eq]
  exact eq_comm

theorem contains_self (a : Flags) : a.contains a :=
  contains_iff.2 fun _ _ hbit => hbit

end Flags

theorem two_le_bytesOf (b : Entry) : 2 ≤ (bytesOf b).length := by
  have hbytes : bytesOf b = (Value.word16 b.flags.bits).bytes ++
      (Record.values b).tail.flatMap Value.bytes := rfl
  rw [hbytes, List.length_append, Value.bytes, numberBytes_length]
  omega

theorem takes_two (version : UInt8) : Takes 2 (Cursor.fields version schema.fields) := by
  have hflags : Takes 2 (Cursor.field version { name := "flags", kind := .word16 }) := by
    rw [Cursor.field_of_holds (UInt8.not_lt.2 (UInt8.zero_le))]
    exact (Cursor.takes_number 2).andThen fun n => Takes.pure (Value.ofNumber .word16 n)
  exact hflags.andThen fun v =>
    (Cursor.takes_fields_any version schema.fields.tail).andThen fun vs => Takes.pure (v :: vs)

namespace Book

def Sound (book : Book) : Prop :=
  book.file.Spaced 2 book.entries.length

variable {book : Book} {shelf : Shelf}

theorem sound_of_openAt {now : UInt64} {after : Shelf}
    (h : Book.openAt now shelf = (.ok book, after)) : book.Sound := by
  unfold Book.openAt at h
  split at h
  · cases h
  · rename_i found shelf' hfound
    cases h
    exact spaced_openAt two_le_bytesOf takes_two hfound

theorem enter_of_sound (h : book.Sound) (hshelf : shelf.Writable) (b : Entry) :
    ∃ grown after, book.enter b shelf = (.ok book.entries.length, grown, after) ∧
      grown.entries = book.entries ++ [b] ∧ grown.Sound ∧ after.Writable := by
  obtain ⟨after, hwrite, hafter⟩ := hshelf.change (Shelf.overlay book.file.eof (bytesOf b))
  have hgrown := RecordFile.Spaced.grow h (two_le_bytesOf b)
  refine ⟨⟨⟨book.file.eof + (bytesOf b).length, book.file.offsets ++ [book.file.eof]⟩,
    book.entries ++ [b]⟩, after, ?_, rfl, ?_, hafter⟩
  · simp only [enter, RecordFile.append, encode_eq, Shelf.write, hwrite]
  · simpa only [Sound, List.length_append, List.length_singleton] using hgrown

theorem deactivate_of_sound (h : book.Sound) (hshelf : shelf.Writable) {index : Nat} {b : Entry}
    (hb : book.entries[index]? = some b) :
    ∃ left after, book.deactivate index shelf = (.ok b.isActive, left, after) ∧
      left.entries = (if b.isActive then book.entries.set index b.lift else book.entries) ∧
      left.Sound ∧ after.Writable := by
  by_cases hactive : b.isActive
  · obtain ⟨hindex, -⟩ := List.getElem?_eq_some_iff.1 hb
    obtain ⟨start, hoffset, hstart, hend⟩ := RecordFile.Spaced.offsetOf? h hindex
    have hfield : schema.fixedOffset? "flags" schema.current = some 0 := by decide
    have hflags : Book.flagsOffset? ⟨book.file, book.entries.set index b.lift⟩ index =
        some start := by
      simp only [flagsOffset?, hfield, hoffset]
      rfl
    have hbytes : start + (Value.word16 b.lift.flags.bits).bytes.length ≤ book.file.eof := by
      rwa [Value.bytes, numberBytes_length]
    obtain ⟨after, hpatch, hafter⟩ := RecordFile.Spaced.patch hstart hbytes hshelf
    refine ⟨⟨book.file, book.entries.set index b.lift⟩, after, ?_, by rw [if_pos hactive], ?_,
      hafter⟩
    · simp only [deactivate, hb, hactive, hflags, hpatch]
      rfl
    · simpa only [Sound, List.length_set] using h
  · exact ⟨book, shelf, by simp [deactivate, hb, hactive], by rw [if_neg hactive], h, hshelf⟩

theorem deactivateAll_of_sound (h : book.Sound) (hshelf : shelf.Writable) {indices : List Nat}
    (hindices : ∀ index ∈ indices, index < book.entries.length) :
    ∃ left after, book.deactivateAll indices shelf = (.ok (), left, after) ∧
      (∀ i, i ∉ indices → left.entries[i]? = book.entries[i]?) ∧
      left.Sound ∧ after.Writable := by
  induction indices generalizing book shelf with
  | nil => exact ⟨book, shelf, rfl, fun _ _ => rfl, h, hshelf⟩
  | cons index indices ih =>
      obtain ⟨hindex, hindices⟩ := List.forall_mem_cons.1 hindices
      obtain ⟨next, between, hfirst, hentries, hnext, hbetween⟩ :=
        deactivate_of_sound h hshelf (List.getElem?_eq_getElem hindex)
      have hlength : next.entries.length = book.entries.length := by
        rw [hentries]
        split
        · exact List.length_set
        · rfl
      obtain ⟨left, after, hrest, hsame, hleft⟩ :=
        ih hnext hbetween fun i hi => hlength.symm ▸ hindices i hi
      refine ⟨left, after, by rw [deactivateAll, hfirst]; exact hrest, fun i hi => ?_, hleft⟩
      obtain ⟨hne, hi⟩ := not_or.1 (mt List.mem_cons.2 hi)
      rw [hsame i hi, hentries]
      split
      · exact List.getElem?_set_ne (Ne.symm hne)
      · rfl

theorem contains_foldl_union {b : Entry} {held : List (Entry × Nat)} (start : Flags)
    (h : start.contains b.flags.kinds ∨ b ∈ held.map Prod.fst) :
    (held.foldl (fun kinds (q, _) => kinds.union q.flags.kinds) start).contains b.flags.kinds := by
  induction held generalizing start with
  | nil => simpa using h
  | cons q held ih =>
      rw [List.foldl_cons]
      refine ih _ ?_
      rcases h with h | h
      · exact .inl (Flags.contains_union_left h _)
      · rcases List.mem_cons.1 h with rfl | h
        · exact .inl (Flags.contains_union_right (Flags.contains_self _) _)
        · exact .inr h

/-- Where the bans of a player stand that are still marked as in force but have run out. -/
def expired (now : UInt64) (p : Match.Player) (book : Book) : List Nat :=
  ((book.against p).filter (·.1.isExpired now)).map Prod.snd

/-- The bans that hold for a player. -/
def standing (now : UInt64) (p : Match.Player) (book : Book) : List Entry :=
  book.entries.filter fun b => b.isActive && b.concerns p && !b.isExpired now

/-- All that the bans which hold for a player forbid. -/
def forbidden (now : UInt64) (p : Match.Player) (book : Book) : Flags :=
  ((book.against p).filter (!·.1.isExpired now)).foldl
    (fun kinds (b, _) => kinds.union b.flags.kinds) Flags.none

theorem forbidden_contains {now : UInt64} {p : Match.Player} {b : Entry}
    (hb : b ∈ book.standing now p) : (book.forbidden now p).contains b.flags.kinds := by
  obtain ⟨hmem, hholds⟩ := List.mem_filter.1 hb
  obtain ⟨i, hi⟩ := List.mem_iff_getElem?.1 hmem
  obtain ⟨hactive, hlasting⟩ := Bool.and_eq_true_iff.1 hholds
  have hagainst : (b, i) ∈ book.against p :=
    List.mem_filter.2 ⟨List.mem_zipIdx_iff_getElem?.2 hi, hactive⟩
  apply contains_foldl_union
  right
  exact List.mem_map.2 ⟨(b, i), List.mem_filter.2 ⟨hagainst, hlasting⟩, rfl⟩

/-- With a file that can be written, the check marks the player with every ban that concerns them
and has not run out, and only those that have run out are lifted. -/
theorem check_of_sound (h : book.Sound) (hshelf : shelf.Writable) (now : UInt64)
    (p : Match.Player) :
    ∃ kinds left after, book.check now p shelf =
        (.ok (kinds, { p with banFlags := p.banFlags.union kinds }), left, after) ∧
      (∀ b ∈ book.entries, b.isActive → b.concerns p → b.isExpired now = false →
        kinds.contains b.flags.kinds) ∧
      (∀ b ∈ book.entries, b.isExpired now = false → b ∈ left.entries) ∧
      left.Sound ∧ after.Writable := by
  have hindices : ∀ index ∈ book.expired now p, index < book.entries.length := by
    intro index hindex
    obtain ⟨⟨b, i⟩, hmem, rfl⟩ := List.mem_map.1 hindex
    exact lt_of_mem_against (List.mem_filter.1 hmem).1
  obtain ⟨left, after, hall, hsame, hleft, hafter⟩ := deactivateAll_of_sound h hshelf hindices
  refine ⟨book.forbidden now p, left, after, ?_,
    fun b hb hactive hconcerns hlasting => ?_, fun b hb hlasting => ?_, hleft, hafter⟩
  · rw [expired] at hall
    simp only [check, List.partition_eq_filter_filter, hall]
    rfl
  · exact forbidden_contains (List.mem_filter.2 ⟨hb, by simp [hactive, hconcerns, hlasting]⟩)
  · obtain ⟨i, hi⟩ := List.mem_iff_getElem?.1 hb
    have hkept : i ∉ book.expired now p := by
      intro hin
      obtain ⟨⟨q, j⟩, hq, rfl⟩ := List.mem_map.1 hin
      obtain ⟨hagainst, hexpired⟩ := List.mem_filter.1 hq
      have hat : book.entries[j]? = some q :=
        List.mem_zipIdx_iff_getElem?.1 (List.mem_filter.1 hagainst).1
      rw [hi] at hat
      cases hat
      simp [hlasting] at hexpired
    exact List.mem_of_getElem? ((hsame i hkept).trans hi)

end Book

end RemoteConsole.Ban
