import Mathlib.Data.List.Sigma
import Mathlib.Tactic.ByContra
import Mathlib.Tactic.Tauto
import RemoteConsole.Proofs.Ban.Checking

namespace RemoteConsole

open Store (Shelf)

namespace Store

theorem Shelf.change_of_not_writable {shelf : Shelf} (h : ¬ shelf.Writable) (f : Bytes → Bytes) :
    shelf.change f = .error .io := by
  obtain ⟨node, backups, locked⟩ := shelf
  cases locked with
  | true => rfl
  | false =>
      cases node with
      | missing | directory => rfl
      | file content => exact absurd ⟨rfl, content, rfl⟩ h

theorem RecordFile.patch_of_not_writable {shelf : Shelf} (h : ¬ shelf.Writable) (offset : Nat)
    (bytes : Bytes) (file : RecordFile) :
    ∃ e, file.patch offset bytes shelf = (.error e, shelf) := by
  rw [patch, Shelf.write, Shelf.change_of_not_writable h]
  split
  · exact ⟨_, rfl⟩
  · exact ⟨_, rfl⟩

end Store

namespace Ban

theorem Entry.isActive_lift (b : Entry) : b.lift.isActive = false := by
  have hnone : ~~~Flags.active.bits &&& Flags.active.bits = 0 := by decide
  have hactive : (0 == Flags.active.bits) = false := by decide
  simp only [isActive, lift, Flags.contains, Flags.remove, UInt16.and_assoc, hnone,
    UInt16.and_zero, hactive]

theorem Entry.lift_ne {b : Entry} (h : b.isActive) : b.lift ≠ b := by
  intro heq
  rw [← heq, b.isActive_lift] at h
  cases h

namespace Book

variable {book : Book} {index : Nat} {b : Entry}

theorem mem_active : index ∈ book.active ↔ ∃ b, book.entries[index]? = some b ∧ b.isActive :=
  mem_indicesOf

section Deactivate

variable (shelf : Shelf)

theorem deactivate_of_active (hb : book.entries[index]? = some b) (hactive : b.isActive) :
    ∃ result after, book.deactivate index shelf =
      (result, { book with entries := book.entries.set index b.lift }, after) := by
  rw [deactivate]
  simp only [hb, hactive, Bool.not_true]
  split
  · rename_i h
    cases h
  · split
    · exact ⟨_, _, rfl⟩
    · split
      · exact ⟨_, _, rfl⟩
      · exact ⟨_, _, rfl⟩

theorem deactivate_of_inactive (hb : book.entries[index]? = some b) (hactive : b.isActive = false) :
    book.deactivate index shelf = (.ok false, book, shelf) := by
  rw [deactivate]
  simp only [hb, hactive]
  rfl

theorem deactivate_of_beyond (hb : book.entries[index]? = none) :
    book.deactivate index shelf = (.error (.outOfRange index), book, shelf) := by
  rw [deactivate]
  simp only [hb]

theorem deactivate_keeps (book : Book) (index : Nat) :
    (book.deactivate index shelf).2.1.file = book.file ∧
      (book.deactivate index shelf).2.1.entries.length = book.entries.length := by
  cases hb : book.entries[index]? with
  | none =>
      rw [deactivate_of_beyond shelf hb]
      exact ⟨rfl, rfl⟩
  | some b =>
      by_cases hactive : b.isActive
      · obtain ⟨result, after, hdeactivate⟩ := deactivate_of_active shelf hb hactive
        rw [hdeactivate]
        exact ⟨rfl, List.length_set⟩
      · rw [deactivate_of_inactive shelf hb (Bool.eq_false_iff.2 hactive)]
        exact ⟨rfl, rfl⟩

theorem deactivate_ok_iff (h : book.Sound) (hb : book.entries[index]? = some b)
    (hactive : b.isActive) :
    (∃ r, (book.deactivate index shelf).1 = .ok r) ↔ shelf.Writable := by
  constructor
  · rintro ⟨r, hr⟩
    by_contra hshelf
    rw [deactivate] at hr
    simp only [hb, hactive, Bool.not_true] at hr
    split at hr
    · rename_i h
      cases h
    · split at hr
      · cases hr
      · rename_i offset _
        obtain ⟨e, hpatch⟩ := Store.RecordFile.patch_of_not_writable hshelf offset
          (Store.Value.word16 b.lift.flags.bits).bytes book.file
        rw [hpatch] at hr
        cases hr
  · intro hshelf
    obtain ⟨left, after, hdeactivate, -⟩ := deactivate_of_sound h hshelf hb
    exact ⟨b.isActive, by rw [hdeactivate]⟩

end Deactivate

theorem Sound.of_same (h : book.Sound) {left : Book} (hfile : left.file = book.file)
    (hlength : left.entries.length = book.entries.length) : left.Sound := by
  rw [Sound, hfile, hlength]
  exact h

def lifted (indices : List Nat) (book : Book) : Book :=
  { book with entries := book.entries.mapIdx fun i b => if i ∈ indices then b.lift else b }

theorem lifted_nil (book : Book) : book.lifted [] = book := by
  have hsame : book.entries.mapIdx (fun i b => if i ∈ [] then b.lift else b) = book.entries := by
    ext1 i
    simp
  rw [lifted, hsame]

theorem lifted_getElem? (indices : List Nat) (hb : book.entries[index]? = some b) :
    (book.lifted indices).entries[index]? = some (if index ∈ indices then b.lift else b) := by
  simp [lifted, List.getElem?_mapIdx, hb]

theorem lifted_cons {indices : List Nat} (hb : book.entries[index]? = some b)
    (hnew : index ∉ indices) : book.lifted (index :: indices) =
      { book with entries := book.entries.set index b.lift }.lifted indices := by
  simp only [lifted, Book.mk.injEq, true_and]
  ext1 i
  simp only [List.getElem?_mapIdx, List.mem_cons]
  by_cases hi : i = index
  · subst hi
    obtain ⟨hlt, -⟩ := List.getElem?_eq_some_iff.1 hb
    rw [hb, List.getElem?_set_self hlt]
    simp [hnew]
  · rw [List.getElem?_set_ne (Ne.symm hi)]
    simp [hi]

theorem deactivate_first {indices : List Nat} (hactive : ∀ i ∈ index :: indices, i ∈ book.active)
    (hnew : index ∉ indices) (shelf : Shelf) :
    ∃ b result after, book.entries[index]? = some b ∧ b.isActive ∧
      book.deactivate index shelf =
        (result, { book with entries := book.entries.set index b.lift }, after) ∧
      ∀ i ∈ indices, i ∈ { book with entries := book.entries.set index b.lift }.active := by
  obtain ⟨hindex, hindices⟩ := List.forall_mem_cons.1 hactive
  obtain ⟨b, hb, hbactive⟩ := mem_active.1 hindex
  obtain ⟨result, after, hdeactivate⟩ := deactivate_of_active shelf hb hbactive
  refine ⟨b, result, after, hb, hbactive, hdeactivate, ?_⟩
  intro i hi
  obtain ⟨q, hq, hqactive⟩ := mem_active.1 (hindices i hi)
  refine mem_active.2 ⟨q, ?_, hqactive⟩
  rw [List.getElem?_set_ne (ne_of_mem_of_not_mem hi hnew).symm]
  exact hq

/-- Lifts bans one after the other until one cannot be lifted. Before each of them others do to the
file what they like. -/
def deactivateAllAmid (others : Nat → Shelf → Shelf) :
    (indices : List Nat) → Book → Shelf → OnBook Unit
  | [], book, shelf => (.ok (), book, shelf)
  | index :: indices, book, shelf =>
    match book.deactivate index (others index shelf) with
    | (.error e, book, shelf) => (.error e, book, shelf)
    | (.ok _, book, shelf) => deactivateAllAmid others indices book shelf

theorem expired_active {now : UInt64} {p : Match.Player} (h : index ∈ book.expired now p) :
    index ∈ book.active := by
  obtain ⟨⟨b, i⟩, hmem, rfl⟩ := List.mem_map.1 h
  obtain ⟨hmem, hholds⟩ := List.mem_filter.1 (List.mem_filter.1 hmem).1
  have hactive : b.isActive := (Bool.and_eq_true_iff.1 hholds).1
  exact mem_active.2 ⟨b, List.mem_zipIdx_iff_getElem?.1 hmem, hactive⟩

theorem expired_nodup (now : UInt64) (p : Match.Player) (book : Book) :
    (book.expired now p).Nodup := by
  apply List.Nodup.sublist _ (List.nodup_zipIdx_map_snd book.entries)
  exact (List.filter_sublist.trans List.filter_sublist).map Prod.snd

def checkAmid (others : Nat → Shelf → Shelf) (now : UInt64) (p : Match.Player) (book : Book)
    (shelf : Shelf) : OnBook (Flags × Match.Player) :=
  let kinds := book.forbidden now p
  match book.deactivateAllAmid others (book.expired now p) shelf with
  | (.error e, book, shelf) => (.error e, book, shelf)
  | (.ok (), book, shelf) =>
    (.ok (kinds, { p with banFlags := p.banFlags.union kinds }), book, shelf)

theorem deactivateAllAmid_id (indices : List Nat) (book : Book) (shelf : Shelf) :
    deactivateAllAmid (fun _ shelf => shelf) indices book shelf =
      book.deactivateAll indices shelf := by
  induction indices generalizing book shelf with
  | nil => rfl
  | cons index indices ih =>
      rw [deactivateAllAmid, deactivateAll]
      split <;> simp_all

theorem checkAmid_id (now : UInt64) (p : Match.Player) (book : Book) (shelf : Shelf) :
    book.checkAmid (fun _ shelf => shelf) now p shelf = book.check now p shelf := by
  simp only [checkAmid, check, deactivateAllAmid_id, List.partition_eq_filter_filter]
  rfl

section Amid

variable (others : Nat → Shelf → Shelf) (shelf : Shelf)

theorem deactivateAllAmid_keeps (indices : List Nat) (book : Book) :
    (book.deactivateAllAmid others indices shelf).2.1.file = book.file ∧
      (book.deactivateAllAmid others indices shelf).2.1.entries.length = book.entries.length := by
  induction indices generalizing book shelf with
  | nil => exact ⟨rfl, rfl⟩
  | cons index indices ih =>
      have hfirst := deactivate_keeps (others index shelf) book index
      rw [deactivateAllAmid]
      split
      · rename_i heq
        rw [heq] at hfirst
        exact hfirst
      · rename_i heq
        rw [heq] at hfirst
        exact ⟨(ih _ _).1.trans hfirst.1, (ih _ _).2.trans hfirst.2⟩

theorem checkAmid_keeps (now : UInt64) (p : Match.Player) (book : Book) :
    (book.checkAmid others now p shelf).2.1.file = book.file ∧
      (book.checkAmid others now p shelf).2.1.entries.length = book.entries.length := by
  have hall := deactivateAllAmid_keeps others shelf (book.expired now p) book
  rw [checkAmid]
  split <;> rename_i heq <;> rw [heq] at hall <;> exact hall

theorem deactivateAllAmid_cases {indices : List Nat} (hactive : ∀ i ∈ indices, i ∈ book.active)
    (hnodup : indices.Nodup) :
    (∃ after, book.deactivateAllAmid others indices shelf = (.ok (), book.lifted indices, after)) ∨
      ∃ done index rest e after, indices = done ++ index :: rest ∧
        book.deactivateAllAmid others indices shelf =
          (.error e, book.lifted (done ++ [index]), after) := by
  induction indices generalizing book shelf with
  | nil => exact .inl ⟨shelf, by rw [lifted_nil]; rfl⟩
  | cons index indices ih =>
      obtain ⟨hnew, hnodup⟩ := List.nodup_cons.1 hnodup
      obtain ⟨b, result, between, hb, hbactive, hfirst, hstill⟩ :=
        deactivate_first hactive hnew (others index shelf)
      cases result with
      | error e =>
          refine .inr ⟨[], index, indices, e, between, rfl, ?_⟩
          rw [deactivateAllAmid, hfirst, List.nil_append, lifted_cons hb List.not_mem_nil,
            lifted_nil]
      | ok r =>
          rcases ih between hstill hnodup with
            ⟨after, hrest⟩ | ⟨done, last, rest, e, after, rfl, hrest⟩
          · refine .inl ⟨after, ?_⟩
            rw [deactivateAllAmid, hfirst, lifted_cons hb hnew]
            exact hrest
          · refine .inr ⟨index :: done, last, rest, e, after, rfl, ?_⟩
            have hnew' : index ∉ done ++ [last] := by
              intro hmem
              apply hnew
              simp only [List.mem_append, List.mem_cons, List.not_mem_nil] at hmem ⊢
              tauto
            rw [deactivateAllAmid, hfirst, List.cons_append, lifted_cons hb hnew']
            exact hrest

/-- It fails exactly if a ban finds a file that cannot be written when its turn comes. -/
theorem deactivateAllAmid_ok_iff (h : book.Sound) {indices : List Nat}
    (hactive : ∀ i ∈ indices, i ∈ book.active) (hnodup : indices.Nodup) :
    (book.deactivateAllAmid others indices shelf).1 = .ok () ↔
      ∀ done index rest, indices = done ++ index :: rest →
        (others index (book.deactivateAllAmid others done shelf).2.2).Writable := by
  induction indices generalizing book shelf with
  | nil => simp [deactivateAllAmid]
  | cons index indices ih =>
      obtain ⟨hnew, hnodup⟩ := List.nodup_cons.1 hnodup
      obtain ⟨b, result, between, hb, hbactive, hfirst, hstill⟩ :=
        deactivate_first hactive hnew (others index shelf)
      have hsound : { book with entries := book.entries.set index b.lift }.Sound :=
        h.of_same rfl List.length_set
      have hok := deactivate_ok_iff (others index shelf) h hb hbactive
      rw [hfirst] at hok
      cases result with
      | error e =>
          have hshelf : ¬ (others index shelf).Writable := by
            rw [← hok]
            rintro ⟨r, hr⟩
            cases hr
          constructor
          · intro hall
            rw [deactivateAllAmid, hfirst] at hall
            cases hall
          · intro hall
            exact absurd (hall [] index indices rfl) hshelf
      | ok r =>
          have hshelf : (others index shelf).Writable := hok.1 ⟨r, rfl⟩
          have hrest := ih between hsound hstill hnodup
          constructor
          · intro hall done last rest hsplit
            rw [deactivateAllAmid, hfirst] at hall
            cases done with
            | nil =>
                cases hsplit
                exact hshelf
            | cons first done =>
                cases hsplit
                rw [deactivateAllAmid, hfirst]
                exact hrest.1 hall done last rest rfl
          · intro hall
            rw [deactivateAllAmid, hfirst]
            apply hrest.2
            intro done last rest hsplit
            have hlater := hall (index :: done) last rest (by rw [hsplit, List.cons_append])
            rw [deactivateAllAmid, hfirst] at hlater
            exact hlater

end Amid

section Written

variable {others : Nat → Shelf → Shelf} {shelf : Shelf} {now : UInt64} {p : Match.Player}

/-- Each ban that has run out finds a file that can be written when its turn comes. -/
def Written (others : Nat → Shelf → Shelf) (now : UInt64) (p : Match.Player) (book : Book)
    (shelf : Shelf) : Prop :=
  ∀ done index rest, book.expired now p = done ++ index :: rest →
    (others index (book.deactivateAllAmid others done shelf).2.2).Writable

theorem checkAmid_of_written (h : book.Sound) (hwritten : book.Written others now p shelf) :
    ∃ left after, book.checkAmid others now p shelf =
      (.ok (book.forbidden now p,
        { p with banFlags := p.banFlags.union (book.forbidden now p) }), left, after) := by
  have hok := (deactivateAllAmid_ok_iff others shelf h (fun _ => expired_active)
    (expired_nodup now p book)).2 hwritten
  rw [checkAmid]
  split
  · rename_i heq
    rw [heq] at hok
    cases hok
  · exact ⟨_, _, rfl⟩

theorem checkAmid_of_not_written (h : book.Sound) (hwritten : ¬ book.Written others now p shelf) :
    ∃ e left after, book.checkAmid others now p shelf = (.error e, left, after) := by
  have hok := mt (deactivateAllAmid_ok_iff others shelf h (fun _ => expired_active)
    (expired_nodup now p book)).1 hwritten
  rw [checkAmid]
  split
  · exact ⟨_, _, _, rfl⟩
  · rename_i heq
    rw [heq] at hok
    exact absurd rfl hok

def checkedAmid (others : Nat → Shelf → Shelf) (now : UInt64) (p : Match.Player) (book : Book)
    (shelf : Shelf) : Match.Player :=
  match (book.checkAmid others now p shelf).1 with
  | .error _ => p
  | .ok (_, p) => p

theorem checkedAmid_contains_iff (h : book.Sound) (others : Nat → Shelf → Shelf) (now : UInt64)
    (p : Match.Player) (shelf : Shelf) :
    (∀ b ∈ book.standing now p,
        (book.checkedAmid others now p shelf).banFlags.contains b.flags.kinds) ↔
      book.Written others now p shelf ∨
        ∀ b ∈ book.standing now p, p.banFlags.contains b.flags.kinds := by
  by_cases hwritten : book.Written others now p shelf
  · obtain ⟨left, after, hcheck⟩ := checkAmid_of_written h hwritten
    simp only [checkedAmid, hcheck]
    apply iff_of_true
    · intro b hb
      exact Flags.contains_union_right (forbidden_contains hb) p.banFlags
    · exact .inl hwritten
  · obtain ⟨e, left, after, hcheck⟩ := checkAmid_of_not_written h hwritten
    simp only [checkedAmid, hcheck, hwritten, false_or]

end Written

end Book

end Ban

end RemoteConsole
