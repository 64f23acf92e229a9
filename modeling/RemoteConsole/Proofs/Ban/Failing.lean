import RemoteConsole.Proofs.Ban.Lifting

namespace RemoteConsole.Ban

open Store (Failure Shelf bytesOf)

namespace Step

/-- Only a check writes more than once, so that others can come in between. -/
def runAmid (others : Nat → Shelf → Shelf) (s : Step) (book : Book) (shelf : Shelf) : OnBook Unit :=
  match s with
  | check now p =>
      let (result, left) := book.checkAmid others now p shelf
      (result.map fun _ => (), left)
  | s => s.run book shelf

theorem runAmid_id (s : Step) (book : Book) (shelf : Shelf) :
    s.runAmid (fun _ shelf => shelf) book shelf = s.run book shelf := by
  cases s with
  | check now p => simp only [runAmid, run, Book.checkAmid_id]
  | add | enter | deactivate | reopen => rfl

/-- Where the bans stand that a step lifts. -/
def targets (s : Step) (book : Book) : List Nat :=
  match s with
  | deactivate index => if index ∈ book.active then [index] else []
  | check now p => book.expired now p
  | add .. | enter _ | reopen _ => []

theorem targets_active {s : Step} {book : Book} {index : Nat} (h : index ∈ s.targets book) :
    index ∈ book.active := by
  cases s with
  | deactivate i =>
      rw [targets] at h
      split at h
      · rename_i hactive
        rw [List.mem_singleton.1 h]
        exact hactive
      · cases h
  | check now p => exact Book.expired_active h
  | add | enter | reopen => cases h

end Step

namespace Book

variable {book left : Book} {shelf after : Shelf} {b : Entry}

theorem enter_of_error {e : Failure} (h : book.enter b shelf = (.error e, left, after)) :
    left = book := by
  rw [enter] at h
  split at h
  · cases h
    rfl
  · cases h

theorem enter_of_file {content : Store.Bytes} (hlocked : shelf.locked = false)
    (hnode : shelf.node = .file content) :
    ∃ grown, book.enter b shelf = (.ok book.entries.length, grown,
        { shelf with node := .file (Shelf.overlay book.file.eof (bytesOf b) content) }) ∧
      grown.entries = book.entries ++ [b] := by
  refine ⟨⟨⟨book.file.eof + (bytesOf b).length, book.file.offsets ++ [book.file.eof]⟩,
    book.entries ++ [b]⟩, ?_, rfl⟩
  simp only [enter, Store.RecordFile.append, Store.encode_eq, Shelf.write, Shelf.change, hlocked,
    hnode]

theorem deactivate_of_error {index : Nat} {e : Failure}
    (h : book.deactivate index shelf = (.error e, left, after)) :
    (index ∉ book.active ∧ left = book) ∨ (index ∈ book.active ∧ left = book.lifted [index]) := by
  by_cases hactive : index ∈ book.active
  · right
    obtain ⟨b, hb, hbactive⟩ := mem_active.1 hactive
    obtain ⟨result, behind, hdeactivate⟩ := deactivate_of_active shelf hb hbactive
    rw [hdeactivate] at h
    rw [lifted_cons hb List.not_mem_nil, lifted_nil]
    cases h
    exact ⟨hactive, rfl⟩
  · left
    refine ⟨hactive, ?_⟩
    cases hb : book.entries[index]? with
    | none =>
        rw [deactivate_of_beyond shelf hb] at h
        cases h
        rfl
    | some b =>
        have hinactive : b.isActive = false := by
          rw [Bool.eq_false_iff]
          intro hbactive
          exact hactive (mem_active.2 ⟨b, hb, hbactive⟩)
        rw [deactivate_of_inactive shelf hb hinactive] at h
        cases h

theorem checkAmid_of_error {others : Nat → Shelf → Shelf} {now : UInt64} {p : Match.Player}
    {e : Failure} (h : book.checkAmid others now p shelf = (.error e, left, after)) :
    ∃ done index rest, book.expired now p = done ++ index :: rest ∧
      left = book.lifted (done ++ [index]) := by
  rw [checkAmid] at h
  rcases deactivateAllAmid_cases others shelf (fun _ => expired_active)
    (expired_nodup now p book) with ⟨behind, hall⟩ | ⟨done, index, rest, e', behind, hsplit, hall⟩
  · simp only [hall] at h
    cases h
  · simp only [hall] at h
    cases h
    exact ⟨done, index, rest, hsplit, rfl⟩

section Lifted

variable {indices : List Nat} {index : Nat} (hindex : index ∈ indices)
include hindex

theorem not_mem_active_lifted : index ∉ (book.lifted indices).active := by
  intro h
  obtain ⟨q, hq, hactive⟩ := mem_active.1 h
  cases hb : book.entries[index]? with
  | none =>
      rw [lifted, List.getElem?_mapIdx, hb] at hq
      cases hq
  | some b =>
      rw [lifted_getElem? indices hb, if_pos hindex] at hq
      cases hq
      rw [b.isActive_lift] at hactive
      cases hactive

theorem entries_lifted_ne (hactive : index ∈ book.active) :
    (book.lifted indices).entries ≠ book.entries := by
  intro h
  obtain ⟨b, hb, hbactive⟩ := mem_active.1 hactive
  have hlifted := lifted_getElem? indices hb
  rw [h, hb, if_pos hindex] at hlifted
  exact Entry.lift_ne hbactive (Option.some.inj hlifted).symm

theorem deactivate_lifted (hactive : index ∈ book.active) (shelf : Shelf) :
    (book.lifted indices).deactivate index shelf = (.ok false, book.lifted indices, shelf) := by
  obtain ⟨b, hb, -⟩ := mem_active.1 hactive
  have hlifted := lifted_getElem? indices hb
  rw [if_pos hindex] at hlifted
  exact deactivate_of_inactive shelf hlifted b.isActive_lift

end Lifted

end Book

namespace Step

variable {others : Nat → Shelf → Shelf} {book left : Book} {shelf after : Shelf} {s : Step}
  {e : Failure}

theorem run_of_entered {b : Entry} (h : b ∈ s.entered?) (book : Book) (shelf : Shelf) :
    s.run book shelf = ((book.enter b shelf).1.map fun _ => (), (book.enter b shelf).2) := by
  cases s with
  | add | enter =>
      cases h
      rfl
  | deactivate | check | reopen => cases h

theorem forgotten_eq_error {α : Type} {r : Except Failure α} :
    r.map (fun _ => ()) = .error e ↔ r = .error e := by
  cases r with
  | error => simp [Except.map]
  | ok => simp [Except.map]

theorem run_entered_of_error {b : Entry} (hb : b ∈ s.entered?)
    (h : s.run book shelf = (.error e, left, after)) : left = book := by
  rw [run_of_entered hb, Prod.mk.injEq, forgotten_eq_error] at h
  exact Book.enter_of_error (Prod.ext h.1 h.2)

/-- A step that fails leaves the book, or has lifted bans up to the one that it could not write. -/
theorem runAmid_of_error (h : s.runAmid others book shelf = (.error e, left, after)) :
    (s.targets book = [] ∧ left = book) ∨
      ∃ done index rest, s.targets book = done ++ index :: rest ∧
        left = book.lifted (done ++ [index]) := by
  cases s with
  | add now p banner reason duration kinds annotate =>
      have hrun : (add now p banner reason duration kinds annotate).run book shelf =
          (.error e, left, after) := h
      exact .inl ⟨rfl, run_entered_of_error rfl hrun⟩
  | enter b =>
      have hrun : (enter b).run book shelf = (.error e, left, after) := h
      exact .inl ⟨rfl, run_entered_of_error rfl hrun⟩
  | deactivate index =>
      have hrun : (deactivate index).run book shelf = (.error e, left, after) := h
      rw [run, Prod.mk.injEq, forgotten_eq_error] at hrun
      have hfailed : book.deactivate index shelf = (.error e, left, after) :=
        Prod.ext hrun.1 hrun.2
      rcases Book.deactivate_of_error hfailed with ⟨hactive, hleft⟩ | ⟨hactive, hleft⟩
      · exact .inl ⟨if_neg hactive, hleft⟩
      · exact .inr ⟨[], index, [], if_pos hactive, hleft⟩
  | check now p =>
      rw [runAmid, Prod.mk.injEq, forgotten_eq_error] at h
      have hfailed : book.checkAmid others now p shelf = (.error e, left, after) :=
        Prod.ext h.1 h.2
      exact .inr (Book.checkAmid_of_error hfailed)
  | reopen now =>
      left
      refine ⟨rfl, ?_⟩
      have hrun : (reopen now).run book shelf = (.error e, left, after) := h
      rw [run] at hrun
      split at hrun
      · cases hrun
        rfl
      · cases hrun

end Step

namespace Book

variable {book : Book}

theorem Sound.enter (h : book.Sound) (b : Entry) (shelf : Shelf) :
    (book.enter b shelf).2.1.Sound := by
  by_cases hshelf : shelf.Writable
  · obtain ⟨grown, after, henter, -, hgrown, -⟩ := enter_of_sound h hshelf b
    rw [henter]
    exact hgrown
  · simp only [Book.enter, Store.RecordFile.append, Store.encode_eq, Shelf.write,
      Shelf.change_of_not_writable hshelf]
    exact h

theorem Sound.runAmid (h : book.Sound) (others : Nat → Shelf → Shelf) (s : Step) (shelf : Shelf) :
    (s.runAmid others book shelf).2.1.Sound := by
  cases s with
  | add | enter => exact h.enter _ shelf
  | deactivate index =>
      obtain ⟨hfile, hlength⟩ := deactivate_keeps shelf book index
      exact h.of_same hfile hlength
  | check now p =>
      obtain ⟨hfile, hlength⟩ := checkAmid_keeps others shelf now p book
      exact h.of_same hfile hlength
  | reopen now =>
      have hopen : (Step.reopen now).runAmid others book shelf = (Step.reopen now).run book shelf :=
        rfl
      rw [hopen, Step.run]
      split
      · exact h
      · rename_i heq
        exact sound_of_openAt heq

/-- A list that was opened, whatever the file held, with all that was done with it since, whatever
others did to the file at any time. -/
inductive Reached : Book → Prop
  | opened {now : UInt64} {shelf after : Shelf} {book : Book} :
      Book.openAt now shelf = (.ok book, after) → Reached book
  | stepped {book : Book} (others : Nat → Shelf → Shelf) (s : Step) (shelf : Shelf) :
      Reached book → Reached (s.runAmid others book shelf).2.1

theorem Reached.sound (h : book.Reached) : book.Sound := by
  induction h with
  | opened hopen => exact sound_of_openAt hopen
  | stepped others s shelf _ ih => exact ih.runAmid others s shelf

end Book

/-- A call that fails leaves the list as it was exactly if it was to lift no ban. Then it leaves the
whole book, and the ban that it was to bring is stored once the call is made with a file that can be
written. Otherwise all bans up to the one that could not be written have lost their bit in the list,
and to make the call again does not write that one. -/
theorem failed_call_keeps_the_list_iff_it_lifts_nothing {others : Nat → Shelf → Shelf}
    {book left : Book} {shelf after : Shelf} {s : Step} {e : Failure}
    (hfailed : s.runAmid others book shelf = (.error e, left, after)) :
    (∀ book shelf, s.runAmid (fun _ shelf => shelf) book shelf = s.run book shelf) ∧
      (left.entries = book.entries ↔ s.targets book = []) ∧
      (s.targets book = [] → left = book ∧ ∀ b ∈ s.entered?, ∀ (again : Shelf) content,
        again.locked = false → again.node = .file content → ∃ grown,
          s.run left again = (.ok (), grown,
            { again with node := .file (Shelf.overlay book.file.eof (bytesOf b) content) }) ∧
          grown.entries = book.entries ++ [b]) ∧
      (s.targets book ≠ [] → ∃ done index rest, s.targets book = done ++ index :: rest ∧
        left = book.lifted (done ++ [index]) ∧ index ∉ s.targets left ∧
        ∀ again, left.deactivate index again = (.ok false, left, again)) := by
  refine ⟨s.runAmid_id, ?_⟩
  rcases Step.runAmid_of_error hfailed with ⟨hnone, rfl⟩ | ⟨done, index, rest, hsplit, rfl⟩
  · refine ⟨iff_of_true rfl hnone, fun _ => ⟨rfl, ?_⟩, fun hsome => absurd hnone hsome⟩
    intro b hb again content hlocked hnode
    obtain ⟨grown, henter, hgrown⟩ := Book.enter_of_file (b := b) hlocked hnode
    refine ⟨grown, ?_, hgrown⟩
    rw [Step.run_of_entered hb, henter]
    rfl
  · have hsome : s.targets book ≠ [] := by simp [hsplit]
    have hindex : index ∈ done ++ [index] := by simp
    have htarget : index ∈ s.targets book := by
      rw [hsplit]
      simp
    have hactive := Step.targets_active htarget
    refine ⟨iff_of_false (Book.entries_lifted_ne hindex hactive) hsome, fun h => absurd h hsome,
      fun _ => ⟨done, index, rest, hsplit, rfl, ?_, Book.deactivate_lifted hindex hactive⟩⟩
    intro hagain
    exact Book.not_mem_active_lifted hindex (Step.targets_active hagain)

theorem failed_call_keeps_the_list_iff_it_lifts_nothing_with_two_to_lift :
    let b : Entry := { issued := 1, duration := 1, account := 7 }
    let p : Match.Player := { (default : Match.Player) with account := 7 }
    let book : Book := ⟨Store.handleOf [b, b], [b, b]⟩
    let shelf : Shelf := { node := .file (Store.contentOf [b, b]) }
    -- the file goes away when the first of the two bans is written
    let others (index : Nat) (shelf : Shelf) : Shelf :=
      if index = 0 then shelf else { shelf with node := .missing }
    Book.openAt 5 shelf = (.ok book, shelf) ∧
      ∃ left after, (Step.check 5 p).runAmid others book shelf = (.error .io, left, after) ∧
        left.entries ≠ book.entries ∧ left.deactivate 1 shelf = (.ok false, left, shelf) := by
  intro b p book shelf others
  have hfailed : (Step.check 5 p).runAmid others book shelf =
      (.error .io, book.lifted [0, 1], { shelf with node := .missing }) := by decide +kernel
  have htargets : (Step.check 5 p).targets book = [0, 1] := by decide +kernel
  obtain ⟨-, hiff, -, -⟩ := failed_call_keeps_the_list_iff_it_lifts_nothing hfailed
  refine ⟨by decide +kernel, _, _, hfailed, ?_, by decide +kernel⟩
  rw [Ne, hiff, htargets]
  exact List.cons_ne_nil _ _

/-- The file is gone while a ban is lifted. When it is back, the ban is still in force there and stays
so. -/
theorem a_ban_lifted_in_vain_is_in_force_again_after_opening :
    let b : Entry := { issued := 1, account := 7 }
    let book : Book := ⟨Store.handleOf [b], [b]⟩
    let shelf : Shelf := { node := .file (Store.contentOf [b]) }
    let left : Book := ⟨Store.handleOf [b], [b.lift]⟩
    Book.openAt 5 shelf = (.ok book, shelf) ∧
      book.deactivate 0 { node := .missing } = (.error .io, left, { node := .missing }) ∧
      left.entries ≠ book.entries ∧ left.deactivate 0 shelf = (.ok false, left, shelf) := by
  decide +kernel

end RemoteConsole.Ban
