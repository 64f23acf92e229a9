import RemoteConsole.Proofs.Ban.Filing
import RemoteConsole.Proofs.Ban.Terms

namespace RemoteConsole

open Store

namespace Ban

namespace Flags

theorem ext_testBit {a b : Flags} (h : ∀ k, a.bits.toNat.testBit k = b.bits.toNat.testBit k) :
    a = b := by
  obtain ⟨a⟩ := a
  obtain ⟨b⟩ := b
  exact congrArg mk (UInt16.toNat_inj.1 (Nat.eq_of_testBit_eq h))

theorem testBit_union (a b : Flags) (k : Nat) :
    (a.union b).bits.toNat.testBit k = (a.bits.toNat.testBit k || b.bits.toNat.testBit k) := by
  rw [union, UInt16.toNat_or, Nat.testBit_or]

theorem testBit_kinds (a : Flags) (k : Nat) :
    a.kinds.bits.toNat.testBit k = (decide (k < 7) && a.bits.toNat.testBit k) := by
  have hkinds : allKinds.bits.toNat = 2 ^ 7 - 1 := rfl
  rw [kinds, UInt16.toNat_and, hkinds, Nat.testBit_and, Nat.testBit_two_pow_sub_one, Bool.and_comm]

theorem union_union (a b : Flags) : (a.union b).union b = a.union b :=
  ext_testBit fun k => by rw [testBit_union, testBit_union, Bool.or_assoc, Bool.or_self]

end Flags

namespace Book

variable {book : Book} {now : UInt64} {p : Match.Player}

theorem mem_against {b : Entry} {i : Nat} : (b, i) ∈ book.against p ↔
    book.entries[i]? = some b ∧ (b.isActive && b.concerns p) = true := by
  rw [against, List.mem_filter, List.mem_zipIdx_iff_getElem?]

theorem mem_held {b : Entry} {i : Nat} :
    (b, i) ∈ (book.against p).filter (!·.1.isExpired now) ↔
      book.entries[i]? = some b ∧ b.Holds now p := by
  rw [List.mem_filter, mem_against, Entry.holds_iff, Bool.and_eq_true _ (!_), and_assoc]

theorem mem_lapsed {b : Entry} {i : Nat} :
    (b, i) ∈ (book.against p).filter (·.1.isExpired now) ↔
      book.entries[i]? = some b ∧ b.Lapsed now p := by
  rw [List.mem_filter, mem_against, Entry.lapsed_iff, Bool.and_eq_true _ (Entry.isExpired _ _),
    and_assoc]

theorem mem_expired {i : Nat} :
    i ∈ book.expired now p ↔ ∃ b, book.entries[i]? = some b ∧ b.Lapsed now p := by
  rw [expired, List.mem_map]
  constructor
  · rintro ⟨⟨b, j⟩, hmem, rfl⟩
    exact ⟨b, mem_lapsed.1 hmem⟩
  · rintro ⟨b, hb⟩
    exact ⟨(b, i), mem_lapsed.2 hb, rfl⟩

theorem exists_lapsed_iff :
    (∃ b ∈ book.entries, b.Lapsed now p) ↔ book.expired now p ≠ [] := by
  constructor
  · rintro ⟨b, hb, hlapsed⟩
    obtain ⟨i, hi⟩ := List.mem_iff_getElem?.1 hb
    exact List.ne_nil_of_mem (mem_expired.2 ⟨b, hi, hlapsed⟩)
  · intro h
    obtain ⟨i, hi⟩ := List.exists_mem_of_ne_nil _ h
    obtain ⟨b, hb, hlapsed⟩ := mem_expired.1 hi
    exact ⟨b, List.mem_of_getElem? hb, hlapsed⟩

theorem testBit_foldl_union (held : List (Entry × Nat)) (start : Flags) (k : Nat) :
    (held.foldl (fun kinds (b, _) => kinds.union b.flags.kinds) start).bits.toNat.testBit k ↔
      start.bits.toNat.testBit k ∨ ∃ q ∈ held, k < 7 ∧ q.1.flags.bits.toNat.testBit k := by
  induction held generalizing start with
  | nil => simp
  | cons q held ih =>
      rw [List.foldl_cons, ih, Flags.testBit_union, Flags.testBit_kinds]
      simp only [Bool.or_eq_true, Bool.and_eq_true, decide_eq_true_eq, List.exists_mem_cons_iff,
        or_assoc]

theorem testBit_forbidden (k : Nat) : (book.forbidden now p).bits.toNat.testBit k ↔
    k < 7 ∧ ∃ b ∈ book.entries, b.Holds now p ∧ b.flags.bits.toNat.testBit k := by
  have hnone : ¬ Flags.none.bits.toNat.testBit k := by simp [Flags.none]
  rw [forbidden, testBit_foldl_union, or_iff_right hnone]
  constructor
  · rintro ⟨⟨b, i⟩, hmem, hk, hbit⟩
    obtain ⟨hb, hholds⟩ := mem_held.1 hmem
    exact ⟨hk, b, List.mem_of_getElem? hb, hholds, hbit⟩
  · rintro ⟨hk, b, hb, hholds, hbit⟩
    obtain ⟨i, hi⟩ := List.mem_iff_getElem?.1 hb
    exact ⟨(b, i), mem_held.2 ⟨hi, hholds⟩, hk, hbit⟩

section Check

variable {left : Book} {shelf after : Shelf}

theorem check_of_ok
    (h : book.deactivateAll (book.expired now p) shelf = (.ok (), left, after)) :
    book.check now p shelf = (.ok (book.forbidden now p,
      { p with banFlags := p.banFlags.union (book.forbidden now p) }), left, after) := by
  rw [← checkAmid_id, checkAmid, deactivateAllAmid_id, h]

theorem check_of_error {e : Failure}
    (h : book.deactivateAll (book.expired now p) shelf = (.error e, left, after)) :
    book.check now p shelf = (.error e, left, after) := by
  rw [← checkAmid_id, checkAmid, deactivateAllAmid_id, h]

end Check

section DeactivateAll

variable {shelf : Shelf} {parts : List Bytes}

theorem Filed.deactivateAll_of_locked (h : book.Filed shelf parts) (hlocked : shelf.locked)
    {index : Nat} (hactive : index ∈ book.active) (indices : List Nat) :
    ∃ left, book.deactivateAll (index :: indices) shelf = (.error .io, left, shelf) := by
  obtain ⟨b, hb, hbactive⟩ := mem_active.1 hactive
  obtain ⟨part, hpart, hfiled⟩ := h.exists_part hb
  have hfirst := h.deactivate_eq hb hbactive hpart hfiled
  rw [if_pos hlocked] at hfirst
  exact ⟨_, by rw [deactivateAll, hfirst]⟩

theorem Filed.deactivateAll_of_unlocked (h : book.Filed shelf parts) {indices : List Nat}
    (hlocked : indices ≠ [] → shelf.locked = false) (hactive : ∀ i ∈ indices, i ∈ book.active)
    (hnodup : indices.Nodup) :
    ∃ after left, book.deactivateAll indices shelf = (.ok (), book.lifted indices, after) ∧
      after = { shelf with node := after.node } ∧ (book.lifted indices).Filed after left ∧
      ∀ i part, parts[i]? = some part →
        left[i]? = some (if i ∈ indices then clearedAt 0 part else part) := by
  induction indices generalizing book shelf parts with
  | nil =>
      refine ⟨shelf, parts, ?_, rfl, ?_, fun i part hpart => ?_⟩
      · rw [lifted_nil]
        rfl
      · rw [lifted_nil]
        exact h
      · rw [hpart, if_neg List.not_mem_nil]
  | cons index indices ih =>
      obtain ⟨hnew, hnodup⟩ := List.nodup_cons.1 hnodup
      obtain ⟨b, -, -, hb, hbactive, -, hstill⟩ := deactivate_first hactive hnew shelf
      obtain ⟨part, hpart, hfiled⟩ := h.exists_part hb
      have hfirst := h.deactivate_eq hb hbactive hpart hfiled
      have hunlocked := hlocked (List.cons_ne_nil _ _)
      rw [if_neg (Bool.eq_false_iff.1 hunlocked)] at hfirst
      obtain ⟨after, left, hrest, hafter, hleft, hparts⟩ :=
        ih (h.lift hpart hfiled) (fun _ => hunlocked) hstill hnodup
      rw [← lifted_cons hb hnew] at hrest hleft
      refine ⟨after, left, ?_, hafter, hleft, fun i q hq => ?_⟩
      · rw [deactivateAll, hfirst]
        exact hrest
      · by_cases hi : i = index
        · subst hi
          rw [hpart] at hq
          cases hq
          have hset := List.getElem?_set_self (a := clearedAt 0 part)
            (List.getElem?_eq_some_iff.1 hpart).1
          rw [hparts i _ hset, if_neg hnew, if_pos List.mem_cons_self]
        · have hset : (parts.set index (clearedAt 0 part))[i]? = some q :=
            (List.getElem?_set_ne (Ne.symm hi)).trans hq
          rw [hparts i q hset]
          simp only [List.mem_cons, hi, false_or]

end DeactivateAll

/-- The bans that have run out for a player, and only these, are marked as not in force any more: in
the list and, by one bit each, in the file. -/
structure LiftsLapsed (now : UInt64) (p : Match.Player) (book left : Book)
    (content leftContent : Bytes) : Prop where
  file : left.file = book.file
  count : left.entries.length = book.entries.length
  length : leftContent.length = content.length
  lapsed : ∀ i b, book.entries[i]? = some b → b.Lapsed now p →
    left.entries[i]? = some b.lift ∧ ∃ start, book.file.offsetOf? i = some start ∧
      flagsAt start content = b.flags ∧ flagsAt start leftContent = b.flags.remove .active
  others : ∀ i b, book.entries[i]? = some b → ¬ b.Lapsed now p →
    left.entries[i]? = some b ∧ ∃ start, book.file.offsetOf? i = some start ∧
      flagsAt start leftContent = flagsAt start content
  bytes : ∀ place, leftContent[place]? ≠ content[place]? → ∃ i b start,
    book.entries[i]? = some b ∧ b.Lapsed now p ∧ book.file.offsetOf? i = some start ∧
      place = start + 1

section Lapsed

variable {shelf after : Shelf} {parts left : List Bytes}

theorem mem_expired_iff {i : Nat} {b : Entry} (hb : book.entries[i]? = some b) :
    i ∈ book.expired now p ↔ b.Lapsed now p := by
  rw [mem_expired]
  constructor
  · rintro ⟨q, hq, hlapsed⟩
    rw [hb] at hq
    cases hq
    exact hlapsed
  · exact fun hlapsed => ⟨b, hb, hlapsed⟩

theorem place_of_ne {part : Bytes} {k : Nat} (h : part[k]? ≠ (clearedAt 0 part)[k]?) : k = 1 := by
  by_contra hk
  refine h ?_
  rw [clearedAt, List.getElem?_modify]
  cases part[k]? with
  | none => rfl
  | some byte => exact congrArg some (if_neg (Ne.symm hk)).symm

theorem lengths_of_cleared {indices : List Nat} (hsize : parts.length = left.length)
    (hparts : ∀ i part, parts[i]? = some part →
      left[i]? = some (if i ∈ indices then clearedAt 0 part else part)) :
    parts.map List.length = left.map List.length := by
  refine List.ext_getElem? fun i => ?_
  rw [List.getElem?_map, List.getElem?_map]
  cases hpart : parts[i]? with
  | none =>
      have hnone : left[i]? = none := by
        rw [List.getElem?_eq_none_iff] at hpart ⊢
        omega
      rw [hnone]
  | some part =>
      rw [hparts i part hpart]
      split
      · exact congrArg some (length_clearedAt 0 part).symm
      · rfl

theorem Filed.flagsAt_lifted {other : Book} {indices : List Nat} (h : book.Filed shelf parts)
    (hother : other.Filed after left) (hfile : other.file = book.file)
    (hsize : parts.length = left.length)
    (hparts : ∀ i part, parts[i]? = some part →
      left[i]? = some (if i ∈ indices then clearedAt 0 part else part))
    {i : Nat} {b : Entry} (hb : book.entries[i]? = some b) :
    ∃ part start, Entry.Filed part b ∧ book.file.offsetOf? i = some start ∧
      flagsAt start (schema.current :: parts.flatten) = flagsAt 0 part ∧
      flagsAt start (schema.current :: left.flatten) =
        flagsAt 0 (if i ∈ indices then clearedAt 0 part else part) := by
  obtain ⟨part, hpart, hfiled⟩ := h.exists_part hb
  obtain ⟨hi, -⟩ := List.getElem?_eq_some_iff.1 hpart
  have hstart := h.parted.offsetOf? hi
  have hsame : book.file.offsetOf? i = some (boundary left i) :=
    hfile ▸ hother.parted.offsetOf? (hsize ▸ hi)
  refine ⟨part, boundary left i, hfiled, hsame, ?_, ?_⟩
  · rw [hstart] at hsame
    rw [← Option.some.inj hsame]
    exact flagsAt_boundary hpart hfiled.1 schema.current
  · refine flagsAt_boundary (hparts i part hpart) ?_ schema.current
    split
    · rw [length_clearedAt]
      exact hfiled.1
    · exact hfiled.1

theorem Filed.liftsLapsed (h : book.Filed shelf parts)
    (hleft : (book.lifted (book.expired now p)).Filed after left)
    (hparts : ∀ i part, parts[i]? = some part →
      left[i]? = some (if i ∈ book.expired now p then clearedAt 0 part else part)) :
    LiftsLapsed now p book (book.lifted (book.expired now p)) (schema.current :: parts.flatten)
      (schema.current :: left.flatten) := by
  have hcount : (book.lifted (book.expired now p)).entries.length = book.entries.length := by
    simp [lifted]
  have hsize : parts.length = left.length := by
    rw [h.entries.length_eq, hleft.entries.length_eq, hcount]
  have hlengths := lengths_of_cleared hsize hparts
  refine ⟨rfl, hcount, ?_, fun i b hb hlapsed => ?_, fun i b hb hnot => ?_, fun place hne => ?_⟩
  · rw [List.length_cons, List.length_cons, List.length_flatten, List.length_flatten, hlengths]
  · obtain ⟨part, start, hfiled, hstart, hbefore, hafter⟩ :=
      h.flagsAt_lifted hleft rfl hsize hparts hb
    have hexpired := (mem_expired_iff hb).2 hlapsed
    rw [if_pos hexpired, flagsAt_clearedAt hfiled.1, hfiled.flags hlapsed.1] at hafter
    rw [hfiled.flags hlapsed.1] at hbefore
    refine ⟨?_, start, hstart, hbefore, hafter⟩
    rw [lifted_getElem? _ hb, if_pos hexpired]
  · obtain ⟨part, start, -, hstart, hbefore, hafter⟩ := h.flagsAt_lifted hleft rfl hsize hparts hb
    have hkept := mt (mem_expired_iff hb).1 hnot
    rw [if_neg hkept, ← hbefore] at hafter
    refine ⟨?_, start, hstart, hafter⟩
    rw [lifted_getElem? _ hb, if_neg hkept]
  · obtain ⟨i, part, other, k, hpart, hother, hk, hplace⟩ := exists_part_of_ne hlengths hne.symm
    rw [hparts i part hpart] at hother
    cases hother
    split at hk
    · rename_i hexpired
      obtain ⟨b, hb, hlapsed⟩ := mem_expired.1 hexpired
      obtain ⟨hi, -⟩ := List.getElem?_eq_some_iff.1 hpart
      obtain rfl := place_of_ne hk
      exact ⟨i, b, _, hb, hlapsed, h.parted.offsetOf? hi, hplace⟩
    · exact absurd rfl hk

section Again

variable {other : Book} {content otherContent : Bytes}

theorem LiftsLapsed.entry (h : LiftsLapsed now p book other content otherContent) {i : Nat}
    {q : Entry} (hq : other.entries[i]? = some q) :
    (book.entries[i]? = some q ∧ ¬ q.Lapsed now p) ∨ q.isActive = false := by
  obtain ⟨hi, -⟩ := List.getElem?_eq_some_iff.1 hq
  rw [h.count] at hi
  have hb : book.entries[i]? = some book.entries[i] := List.getElem?_eq_getElem hi
  by_cases hlapsed : (book.entries[i]).Lapsed now p
  · right
    rw [(h.lapsed i _ hb hlapsed).1] at hq
    cases hq
    exact Entry.isActive_lift _
  · left
    rw [(h.others i _ hb hlapsed).1] at hq
    cases hq
    exact ⟨hb, hlapsed⟩

theorem LiftsLapsed.expired_eq_nil (h : LiftsLapsed now p book other content otherContent) :
    other.expired now p = [] := by
  refine List.eq_nil_iff_forall_not_mem.2 fun i hi => ?_
  obtain ⟨q, hq, hlapsed⟩ := mem_expired.1 hi
  rcases h.entry hq with ⟨-, hnot⟩ | hinactive
  · exact hnot hlapsed
  · rw [hlapsed.1] at hinactive
    cases hinactive

theorem LiftsLapsed.forbidden_eq (h : LiftsLapsed now p book other content otherContent) :
    other.forbidden now p = book.forbidden now p := by
  refine Flags.ext_testBit fun k => ?_
  rw [Bool.eq_iff_iff, testBit_forbidden, testBit_forbidden]
  refine and_congr_right fun _ => ⟨?_, ?_⟩
  · rintro ⟨q, hq, hholds, hbit⟩
    obtain ⟨i, hi⟩ := List.mem_iff_getElem?.1 hq
    rcases h.entry hi with ⟨hb, -⟩ | hinactive
    · exact ⟨q, List.mem_of_getElem? hb, hholds, hbit⟩
    · rw [hholds.1] at hinactive
      cases hinactive
  · rintro ⟨b, hb, hholds, hbit⟩
    obtain ⟨i, hi⟩ := List.mem_iff_getElem?.1 hb
    have hnot : ¬ b.Lapsed now p := fun hlapsed => hlapsed.2.2 hholds.2.2
    exact ⟨b, List.mem_of_getElem? (h.others i b hi hnot).1, hholds, hbit⟩

theorem LiftsLapsed.check_again (h : LiftsLapsed now p book other content otherContent)
    (shelf : Shelf) {marked : Match.Player}
    (hmarked : marked = { p with banFlags := p.banFlags.union (book.forbidden now p) }) :
    other.check now marked shelf = (.ok (book.forbidden now p, marked), other, shelf) := by
  have hexpired : other.expired now marked = [] := hmarked ▸ h.expired_eq_nil
  have hforbidden : other.forbidden now marked = book.forbidden now p := hmarked ▸ h.forbidden_eq
  have hall : other.deactivateAll (other.expired now marked) shelf = (.ok (), other, shelf) := by
    rw [hexpired]
    rfl
  rw [check_of_ok hall, hforbidden, hmarked]
  simp only [Flags.union_union]

end Again

end Lapsed

end Book

/-- While nobody else changes the file, a check fails only if a ban of the player has run out and
the file cannot be written. Otherwise it tells the kinds that the bans forbid which hold for the
player, marks the player with them and changes nothing else about them, and lifts the bans of the
player that have run out. The same check again tells the same and changes nothing. -/
theorem check_is_exact_unless_the_file_cannot_be_written {book : Book} {shelf : Shelf}
    (h : Undisturbed book shelf) (now : UInt64) (p : Match.Player) :
    ((book.check now p shelf).1 = .error .io ↔
      shelf.locked ∧ ∃ b ∈ book.entries, b.Lapsed now p) ∧
    ((book.check now p shelf).1 ≠ .error .io →
      ∃ kinds marked left after content leftContent,
        book.check now p shelf = (.ok (kinds, marked), left, after) ∧
        (∀ k, kinds.bits.toNat.testBit k ↔
          k < 7 ∧ ∃ b ∈ book.entries, b.Holds now p ∧ b.flags.bits.toNat.testBit k) ∧
        marked = { p with banFlags := p.banFlags.union kinds } ∧
        shelf.node = .file content ∧ after = { shelf with node := .file leftContent } ∧
        Book.LiftsLapsed now p book left content leftContent ∧
        left.check now marked after = (.ok (kinds, marked), left, after)) := by
  obtain ⟨parts, hfiled⟩ := h.filed
  rw [Book.exists_lapsed_iff]
  by_cases hstuck : shelf.locked ∧ book.expired now p ≠ []
  · obtain ⟨hlocked, hexpired⟩ := hstuck
    obtain ⟨index, rest, hcons⟩ := List.exists_cons_of_ne_nil hexpired
    have hindex : index ∈ book.active := Book.expired_active (hcons ▸ List.mem_cons_self)
    obtain ⟨left, hall⟩ := hfiled.deactivateAll_of_locked hlocked hindex rest
    rw [← hcons] at hall
    have hcheck : (book.check now p shelf).1 = .error .io := by rw [Book.check_of_error hall]
    exact ⟨iff_of_true hcheck ⟨hlocked, hexpired⟩, fun hok => absurd hcheck hok⟩
  · have hunlocked (hexpired : book.expired now p ≠ []) : shelf.locked = false :=
      Bool.eq_false_iff.2 fun hlocked => hstuck ⟨hlocked, hexpired⟩
    obtain ⟨after, left, hall, hafter, hleft, hparts⟩ := hfiled.deactivateAll_of_unlocked hunlocked
      (fun _ => Book.expired_active) (Book.expired_nodup now p book)
    have hcheck := Book.check_of_ok hall
    have hlifts := hfiled.liftsLapsed hleft hparts
    refine ⟨iff_of_false (by rw [hcheck]; nofun) hstuck, fun _ => ⟨book.forbidden now p, _, _,
      after, _, _, hcheck, Book.testBit_forbidden, rfl, hfiled.parted.node, ?_, hlifts,
      hlifts.check_again after rfl⟩⟩
    rw [hafter, hleft.parted.node]

theorem check_is_exact_for_a_ban_that_ran_out :
    let player : Match.Player :=
      { (default : Match.Player) with hardwareId := "h", address := ⟨0x0A000001⟩ }
    let short : Entry := { issued := 1, duration := 9, hardwareId := "h" }
    let network : Entry := {
      flags := Flags.active.union .chat, issued := 1, address := ⟨0x0A0000FF⟩, networkBits := 24 }
    let book : Book := ⟨handleOf [short, network], [short, network]⟩
    let shelf : Shelf := ⟨.file (contentOf [short, network]), [], false⟩
    Undisturbed book shelf ∧
      ∃ left after leftContent,
        book.check 11 player shelf =
          (.ok (.chat, { player with banFlags := .chat }), left, after) ∧
        Book.LiftsLapsed 11 player book left (contentOf [short, network]) leftContent ∧
        left.check 11 { player with banFlags := .chat } after =
          (.ok (.chat, { player with banFlags := .chat }), left, after) := by
  intro player short network book shelf
  have hmirrors : book.Mirrors shelf := ⟨⟨rfl, rfl⟩, rfl, by decide⟩
  have hbook : Undisturbed book shelf := .opened (Book.reopen_of_mirrors hmirrors 5)
  obtain ⟨hio, hexact⟩ := check_is_exact_unless_the_file_cannot_be_written hbook 11 player
  obtain ⟨kinds, marked, left, after, content, leftContent, hcheck, -, -, hnode, -, hlifts,
    hagain⟩ := hexact (mt hio.1 fun h => nomatch h.1)
  cases hnode
  have hkinds : (book.check 11 player shelf).1 =
      .ok (.chat, { player with banFlags := .chat }) := by decide +kernel
  rw [hcheck] at hkinds
  cases hkinds
  exact ⟨hbook, left, after, leftContent, hcheck, hlifts, hagain⟩

end Ban

end RemoteConsole
