import RemoteConsole.Proofs.Ban.Lifting
import RemoteConsole.Proofs.Store.Parts

namespace RemoteConsole.Ban

open Store

def flagsAt (start : Nat) (bytes : Bytes) : Flags :=
  ⟨.ofNat (numberOf ((bytes.drop start).take 2))⟩

def clearedAt (start : Nat) (bytes : Bytes) : Bytes :=
  bytes.modify (start + 1) (· &&& 0x7F)

theorem flagsAt_middle {before part : Bytes} (hpart : 2 ≤ part.length) (behind : Bytes) :
    flagsAt before.length (before ++ (part ++ behind)) = flagsAt 0 part := by
  rw [flagsAt, List.drop_left, List.take_append_of_le_length hpart, flagsAt, List.drop_zero]

theorem clearedAt_middle {before part : Bytes} (hpart : 2 ≤ part.length) (behind : Bytes) :
    clearedAt before.length (before ++ (part ++ behind)) =
      before ++ (clearedAt 0 part ++ behind) := by
  obtain ⟨low, high, rest, rfl⟩ : ∃ low high rest, part = low :: high :: rest := by
    match part, hpart with
    | low :: high :: rest, _ => exact ⟨low, high, rest, rfl⟩
  induction before with
  | nil => rfl
  | cons b before ih => exact congrArg (b :: ·) ih

theorem bytes_word16 (flags : Flags) : (Value.word16 flags.bits).bytes =
    [.ofNat (flags.bits.toNat % 256), .ofNat (flags.bits.toNat / 256)] := by
  have hbits := flags.bits.toNat_lt
  have hhigh : flags.bits.toNat / 256 % 256 = flags.bits.toNat / 256 := by omega
  rw [Value.bytes, numberBytes, numberBytes, numberBytes, hhigh]

theorem flagsAt_word (flags : Flags) (rest : Bytes) :
    flagsAt 0 ((Value.word16 flags.bits).bytes ++ rest) = flags := by
  have hlength : (Value.word16 flags.bits).bytes.length = 2 := numberBytes_length 2 _
  have hbits : flags.bits.toNat % Nat.pow 256 2 = flags.bits.toNat :=
    Nat.mod_eq_of_lt flags.bits.toNat_lt
  rw [flagsAt, List.drop_zero, ← hlength, List.take_left, Value.bytes, numberOf_numberBytes, hbits,
    UInt16.ofNat_toNat]

theorem word_flagsAt {part : Bytes} (hpart : 2 ≤ part.length) :
    (Value.word16 (flagsAt 0 part).bits).bytes ++ part.drop 2 = part := by
  have hlength : (part.take 2).length = 2 := List.length_take_of_le hpart
  have hbits : (flagsAt 0 part).bits.toNat = numberOf (part.take 2) := by
    have hlt := numberOf_lt (part.take 2)
    rw [hlength] at hlt
    exact UInt16.toNat_ofNat_of_lt hlt
  have hbytes := numberBytes_numberOf (part.take 2)
  rw [hlength] at hbytes
  rw [Value.bytes, hbits, hbytes, List.take_append_drop]

theorem word_remove_active (flags : Flags) (rest : Bytes) :
    (Value.word16 (flags.remove .active).bits).bytes ++ rest =
      clearedAt 0 ((Value.word16 flags.bits).bytes ++ rest) := by
  have hmask : ~~~Flags.active.bits = 0x7FFF := by decide
  have hbits : (flags.remove .active).bits.toNat = flags.bits.toNat % 2 ^ 15 := by
    rw [Flags.remove, hmask, UInt16.toNat_and]
    exact Nat.and_two_pow_sub_one_eq_mod _ 15
  have hhigh : UInt8.ofNat (flags.bits.toNat / 256) &&& 0x7F =
      .ofNat (flags.bits.toNat % 2 ^ 15 / 256) := by
    have hbyte := flags.bits.toNat_lt
    rw [← UInt8.toNat_inj, UInt8.toNat_and, UInt8.toNat_ofNat', UInt8.toNat_ofNat']
    have hmod := Nat.and_two_pow_sub_one_eq_mod (flags.bits.toNat / 256 % 2 ^ 8) 7
    have hseven : (0x7F : UInt8).toNat = 2 ^ 7 - 1 := rfl
    rw [hseven, hmod]
    omega
  have hlow : flags.bits.toNat % 2 ^ 15 % 256 = flags.bits.toNat % 256 := by omega
  rw [bytes_word16, bytes_word16, hbits, hlow, ← hhigh]
  rfl

theorem flagsAt_clearedAt {part : Bytes} (hpart : 2 ≤ part.length) :
    flagsAt 0 (clearedAt 0 part) = (flagsAt 0 part).remove .active := by
  have hword := word_remove_active (flagsAt 0 part) (part.drop 2)
  rw [word_flagsAt hpart] at hword
  rw [← hword, flagsAt_word]

theorem Entry.bytes_lift {part : Bytes} (b : Entry) (hsize : 2 ≤ part.length)
    (hflags : flagsAt 0 part = b.flags) :
    (Value.word16 b.lift.flags.bits).bytes ++ part.drop 2 = clearedAt 0 part := by
  rw [Entry.lift, word_remove_active, ← hflags, word_flagsAt hsize]

section Image

def flagsField : Field :=
  { name := "flags", kind := .word16 }

theorem field_flags : Cursor.field schema.current flagsField = fun c => c.value .word16 :=
  Cursor.field_of_holds (UInt8.not_lt.2 UInt8.zero_le)

theorem flags_of_read {c behind : Cursor} {v : Value}
    (h : Cursor.field schema.current flagsField c = (.ok v, behind)) :
    2 ≤ c.rest.length ∧ v = .word16 (flagsAt 0 c.rest).bits ∧ behind.rest = c.rest.drop 2 := by
  rw [field_flags] at h
  obtain ⟨n, between, hnumber, hv⟩ := ReadResult.andThen_eq_ok h
  obtain ⟨bytes, next, htake, hn⟩ := ReadResult.andThen_eq_ok hnumber
  obtain ⟨hsize, rfl, rfl⟩ := Cursor.take_eq_ok htake
  cases hn
  cases hv
  exact ⟨hsize, rfl, rfl⟩

theorem reads_flags (flags : Flags) :
    Reads (Cursor.field schema.current flagsField) (Value.word16 flags.bits).bytes
      (.word16 flags.bits) := by
  rw [field_flags]
  exact Cursor.reads_value (v := .word16 flags.bits) trivial

theorem ofValues_flags {w : UInt16} {vs : List Value} {b : Entry}
    (h : Record.ofValues? (.word16 w :: vs) = some b) :
    b.flags = ⟨w⟩ ∧ ∀ flags : Flags,
      Record.ofValues? (.word16 flags.bits :: vs) = some { b with flags } := by
  simp only [Record.ofValues?] at h
  split at h
  · rename_i heq
    cases heq
    cases h
    exact ⟨rfl, fun _ => rfl⟩
  · cases h

theorem image_flags {part : Bytes} {b : Entry} (h : Image schema.current part b) :
    2 ≤ part.length ∧ flagsAt 0 part = b.flags ∧ ∀ flags : Flags,
      Image schema.current ((Value.word16 flags.bits).bytes ++ part.drop 2) { b with flags } := by
  obtain ⟨values, hfields, hvalues⟩ := fields_of_decode (h 0 [])
  rw [List.append_nil] at hfields
  obtain ⟨v, between, hfirst, hothers⟩ := ReadResult.andThen_eq_ok hfields
  obtain ⟨vs, behind, hrest, hlast⟩ := ReadResult.andThen_eq_ok hothers
  cases hlast
  obtain ⟨hsize, rfl, hbetween⟩ := flags_of_read hfirst
  obtain ⟨taken, -, htaken, -, hreads⟩ :=
    Cursor.takes_fields_any schema.current schema.fields.tail hrest
  rw [hbetween, List.append_nil] at htaken
  obtain ⟨hflags, hother⟩ := ofValues_flags hvalues
  refine ⟨hsize, hflags.symm, fun flags position rest => ?_⟩
  rw [htaken]
  exact decode_of_fields ((Cursor.reads_fields_cons (reads_flags flags) hreads).whole position rest)
    (hother flags)

theorem image_lift {part : Bytes} {b : Entry} (h : Image schema.current part b) :
    Image schema.current (clearedAt 0 part) b.lift := by
  obtain ⟨hsize, hflags, hother⟩ := image_flags h
  rw [← b.bytes_lift hsize hflags]
  exact hother b.lift.flags

end Image

namespace Book

variable {book : Book} {shelf : Shelf} {parts : List Bytes} {index : Nat} {b : Entry} {part : Bytes}

theorem flagsOffset?_of_parted (h : book.file.Parted shelf schema.current parts)
    (hindex : index < parts.length) : book.flagsOffset? index = some (boundary parts index) := by
  have hfield : schema.fixedOffset? "flags" schema.current = some 0 := by decide
  simp only [flagsOffset?, hfield, h.offsetOf? hindex]
  rfl

theorem deactivate_of_parted (h : book.file.Parted shelf schema.current parts)
    (hb : book.entries[index]? = some b) (hactive : b.isActive)
    (hpart : parts[index]? = some part) (hsize : 2 ≤ part.length)
    (hflags : flagsAt 0 part = b.flags) :
    book.deactivate index shelf =
      if shelf.locked then
        (.error .io, { book with entries := book.entries.set index b.lift }, shelf)
      else
        (.ok true, { book with entries := book.entries.set index b.lift }, { shelf with
          node := .file (schema.current :: (parts.set index (clearedAt 0 part)).flatten) }) := by
  obtain ⟨hindex, -⟩ := List.getElem?_eq_some_iff.1 hpart
  have hword := word_flagsAt hsize
  have hlength : (Value.word16 (flagsAt 0 part).bits).bytes.length =
      (Value.word16 b.lift.flags.bits).bytes.length := by
    simp only [Value.bytes, numberBytes_length]
  have hpatch := h.patch (hword.symm ▸ hpart) hlength
  rw [b.bytes_lift hsize hflags] at hpatch
  have hplace : Book.flagsOffset? ⟨book.file, book.entries.set index b.lift⟩ index =
      some (boundary parts index) :=
    flagsOffset?_of_parted h hindex
  simp only [deactivate, hb, hactive, hplace, hpatch]
  cases shelf.locked <;> rfl

end Book

section Place

variable {parts : List Bytes} {index : Nat} {part : Bytes}

theorem flagsAt_boundary (hpart : parts[index]? = some part) (hsize : 2 ≤ part.length)
    (version : UInt8) : flagsAt (boundary parts index) (version :: parts.flatten) =
      flagsAt 0 part := by
  obtain ⟨before, behind, hbefore, hcontent, -⟩ := flatten_at hpart version
  rw [hcontent, ← hbefore, flagsAt_middle hsize]

theorem clearedAt_boundary (hpart : parts[index]? = some part) (hsize : 2 ≤ part.length)
    (version : UInt8) : clearedAt (boundary parts index) (version :: parts.flatten) =
      version :: (parts.set index (clearedAt 0 part)).flatten := by
  obtain ⟨before, behind, hbefore, hcontent, hother⟩ := flatten_at hpart version
  rw [hcontent, ← hbefore, clearedAt_middle hsize, hother]

theorem length_clearedAt (start : Nat) (bytes : Bytes) :
    (clearedAt start bytes).length = bytes.length :=
  List.length_modify ..

end Place

/-- In a file that is opened where it stands, whatever it holds, lifting a ban that is in force
changes one bit of the file and loses the ban's mark; a ban that is not in force stays as it is. -/
theorem lifting_clears_one_bit_of_the_file {now : UInt64} {shelf after : Shelf}
    {found : Opened Entry} (h : RecordFile.openAt now shelf = (.ok found, after))
    (hin : found.outcome.InPlace) :
    ∃ content, after.node = .file content ∧ ∀ index b, found.records[index]? = some b →
      (b.isActive = false →
        Book.deactivate index ⟨found.file, found.records⟩ after =
          (.ok false, ⟨found.file, found.records⟩, after)) ∧
      (b.isActive →
        ((Book.deactivate index ⟨found.file, found.records⟩ after).1 = .error .io ↔
          after.locked) ∧
        ((Book.deactivate index ⟨found.file, found.records⟩ after).1 ≠ .error .io →
          ∃ start behind, found.file.offsetOf? index = some start ∧
            behind = { after with node := .file (clearedAt start content) } ∧
            Book.deactivate index ⟨found.file, found.records⟩ after =
              (.ok true, ⟨found.file, found.records.set index b.lift⟩, behind) ∧
            flagsAt start content = b.flags ∧
            flagsAt start (clearedAt start content) = b.flags.remove .active ∧
            (clearedAt start content).length = content.length ∧
            ∀ later, RecordFile.openAt later behind =
              (.ok ⟨found.file, found.records.set index b.lift, .loaded⟩, behind))) := by
  obtain ⟨parts, hparted, himages, -⟩ := RecordFile.parted_of_openAt h
  have himages := himages hin
  refine ⟨_, hparted.node, fun index b hb => ⟨?_, fun hactive => ?_⟩⟩
  · exact Book.deactivate_of_inactive after hb
  · obtain ⟨part, hpart, himage⟩ := forall₂_getElem? himages hb
    obtain ⟨hindex, -⟩ := List.getElem?_eq_some_iff.1 hpart
    obtain ⟨hsize, hflags, -⟩ := image_flags himage
    have hlength : (clearedAt 0 part).length = part.length := length_clearedAt 0 part
    have hafter := hparted.set hpart hlength
    have hdeactivate : Book.deactivate index ⟨found.file, found.records⟩ after = _ :=
      Book.deactivate_of_parted hparted hb hactive hpart hsize hflags
    rw [hdeactivate]
    split
    · rename_i hlocked
      exact ⟨iff_of_true rfl hlocked, fun hok => absurd rfl hok⟩
    · rename_i hlocked
      have hset : (parts.set index (clearedAt 0 part))[index]? = some (clearedAt 0 part) :=
        List.getElem?_set_self hindex
      have hplace : boundary (parts.set index (clearedAt 0 part)) index =
          boundary parts index := by
        have hstart := hafter.offsetOf? (List.getElem?_eq_some_iff.1 hset).1
        rw [hparted.offsetOf? hindex] at hstart
        exact (Option.some.inj hstart).symm
      have hcleared := clearedAt_boundary hpart hsize schema.current
      refine ⟨iff_of_false nofun hlocked, fun _ => ⟨boundary parts index, _,
        hparted.offsetOf? hindex, rfl, hcleared ▸ rfl, ?_, ?_, length_clearedAt _ _,
        fun later => ?_⟩⟩
      · exact (flagsAt_boundary hpart hsize _).trans hflags
      · have hflagsAfter := flagsAt_boundary hset (hlength ▸ hsize) schema.current
        rw [hplace, ← hcleared, flagsAt_clearedAt hsize, hflags] at hflagsAfter
        exact hflagsAfter
      · have hreopened := hafter.reopened (forall₂_set himages (image_lift himage) index) later
        exact hcleared ▸ hreopened

theorem lifting_clears_one_bit_of_a_foreign_file :
    let content : Bytes := [5, 1, 128] ++ List.replicate 28 0 ++ [32] ++ List.replicate 8 0 ++
      [1, 0, 0, 0, 255] ++ List.replicate 8 0 ++ [3, 0, 0, 0, 0, 0, 0, 0] ++
      [1, 0, 0, 0, 98, 0, 0, 0, 0] ++ [1, 0, 0, 0, 97, 0, 0, 0, 0] ++ [1, 0, 0, 0, 98, 0, 0, 0, 0]
    let b : Entry := {
      issued := 0, name := "\uFFFD", extra := (Dictionary.empty.insert "a" "").insert "b" "" }
    let book : Book := ⟨⟨88, [1]⟩, [b]⟩
    RecordFile.openAt 7 ⟨.file (content ++ [1, 128, 4]), [], false⟩ =
        (.ok ⟨book.file, [b], .truncated 88⟩, ⟨.file content, [], false⟩) ∧
      book.deactivate 0 ⟨.file content, [], false⟩ =
        (.ok true, ⟨book.file, [b.lift]⟩, ⟨.file (clearedAt 1 content), [], false⟩) ∧
      RecordFile.openAt 8 ⟨.file (clearedAt 1 content), [], false⟩ =
        (.ok ⟨book.file, [b.lift], .loaded⟩, ⟨.file (clearedAt 1 content), [], false⟩) := by
  intro content b book
  have hopen : RecordFile.openAt 7 ⟨.file (content ++ [1, 128, 4]), [], false⟩ =
      (.ok ⟨book.file, [b], .truncated 88⟩, ⟨.file content, [], false⟩) := by rfl
  obtain ⟨_, hcontent, hlift⟩ := lifting_clears_one_bit_of_the_file hopen trivial
  cases hcontent
  obtain ⟨hio, hlift⟩ := (hlift 0 b rfl).2 (by decide)
  obtain ⟨start, behind, hstart, rfl, hdeactivate, -, -, -, hreopened⟩ :=
    hlift (mt hio.1 (by decide))
  cases hstart
  exact ⟨hopen, hdeactivate, hreopened 8⟩

end RemoteConsole.Ban
