import RemoteConsole.Ban.Book
import RemoteConsole.Proofs.Ban.Entry
import RemoteConsole.Proofs.Store.Holding

namespace RemoteConsole.Ban

open Store

inductive Step where
  | add (now : UInt64) (p : Match.Player) (banner reason : String) (duration : UInt64)
      (kinds : Flags) (annotate : Entry → List Pair)
  | enter (b : Entry)
  | deactivate (index : Nat)
  | check (now : UInt64) (p : Match.Player)
  | reopen (now : UInt64)

namespace Step

def entered? : Step → Option Entry
  | add now p banner reason duration kinds annotate =>
      let b := Entry.against p banner reason duration kinds now
      some { b with extra := b.extra.insertAll (annotate b) }
  | enter b => some b
  | deactivate _ | check _ _ | reopen _ => none

def Fits (s : Step) : Prop :=
  ∀ b ∈ s.entered?, Store.Fits b

instance : DecidablePred Fits :=
  fun s => inferInstanceAs (Decidable (∀ b ∈ s.entered?, Store.Fits b))

def run (s : Step) (book : Book) (shelf : Shelf) : OnBook Unit :=
  match s with
  | add now p banner reason duration kinds annotate =>
      let (result, left) := book.add now p banner reason duration kinds annotate shelf
      (result.map fun _ => (), left)
  | enter b =>
      let (result, left) := book.enter b shelf
      (result.map fun _ => (), left)
  | deactivate index =>
      let (result, left) := book.deactivate index shelf
      (result.map fun _ => (), left)
  | check now p =>
      let (result, left) := book.check now p shelf
      (result.map fun _ => (), left)
  | reopen now =>
      match Book.openAt now shelf with
      | (.error e, shelf) => (.error e, book, shelf)
      | (.ok book, shelf) => (.ok (), book, shelf)

/-- A step goes on from what the one before it left, even if that one failed. -/
def runAll : List Step → Book → Shelf → Book × Shelf
  | [], book, shelf => (book, shelf)
  | s :: ss, book, shelf => runAll ss (s.run book shelf).2.1 (s.run book shelf).2.2

end Step

/-- The file holds the bans of the list and nothing else, each stands where it is said to, and
opening the file gives the same book. -/
structure Book.Agrees (book : Book) (shelf : Shelf) : Prop where
  content : ∃ parts, RecordFile.encodeAll book.entries = .ok parts ∧
    shelf.node = .file (5 :: parts.flatten) ∧
    book.file.eof = (5 :: parts.flatten).length ∧
    ∀ i < book.entries.length, book.file.offsetOf? i = some (boundary parts i)
  reopened : ∀ now,
    RecordFile.openAt now shelf = (.ok ⟨book.file, book.entries, .loaded⟩, shelf)

structure Book.Mirrors (book : Book) (shelf : Shelf) : Prop where
  holds : shelf.Holds book.entries
  file : book.file = handleOf book.entries
  fits : ∀ b ∈ book.entries, Store.Fits b

theorem Entry.fits_lift {b : Entry} (h : Store.Fits b) : Store.Fits b.lift := by
  intro v hv
  rcases List.mem_cons.1 hv with rfl | hv
  · exact trivial
  · exact h v (List.mem_cons_of_mem _ hv)

namespace Book

variable {book : Book} {shelf : Shelf}

theorem Mirrors.agrees (h : book.Mirrors shelf) : book.Agrees shelf where
  content := by
    have hcontent : contentOf book.entries = 5 :: (book.entries.map bytesOf).flatten := by
      rw [contentOf, List.flatMap_def]
      rfl
    refine ⟨book.entries.map bytesOf, encodeAll_eq book.entries, ?_, ?_, ?_⟩
    · rw [← hcontent]
      exact h.holds.2
    · rw [← hcontent, h.file]
      rfl
    · intro i hi
      rw [h.file, handleOf_offsetOf?, if_pos hi, contentOf_take_length]
  reopened now := by
    have hstored : book.entries.map Storable.stored = book.entries := List.map_id _
    rw [openAt_of_holds h.holds h.fits, hstored, h.file]

theorem mirrors_of_created (hlocked : shelf.locked = false) (hmissing : shelf.node = .missing)
    (now : UInt64) :
    ∃ book after, Book.openAt now shelf = (.ok book, after) ∧ book.entries = [] ∧
      book.Mirrors after := by
  have hread : shelf.read = .ok [] := by rw [Shelf.read, hmissing]
  have hopen := openAt_of_read_nil (α := Entry) hlocked hread now
  refine ⟨⟨handleOf ([] : List Entry), []⟩,
    { shelf with node := .file (contentOf ([] : List Entry)) }, ?_, rfl,
    ⟨⟨hlocked, rfl⟩, rfl, ?_⟩⟩
  · rw [Book.openAt, hopen]
  · intro b hb
    cases hb

theorem enter_of_mirrors (h : book.Mirrors shelf) {b : Entry} (hb : Store.Fits b) :
    ∃ grown after, book.enter b shelf = (.ok book.entries.length, grown, after) ∧
      grown.entries = book.entries ++ [b] ∧ grown.Mirrors after := by
  have happend := append_of_holds h.holds b
  refine ⟨⟨handleOf (book.entries ++ [b]), book.entries ++ [b]⟩,
    { shelf with node := .file (contentOf (book.entries ++ [b])) }, ?_, rfl,
    ⟨⟨h.holds.1, rfl⟩, rfl, ?_⟩⟩
  · rw [enter, h.file, happend]
  · intro q hq
    rcases List.mem_append.1 hq with hq | hq
    · exact h.fits q hq
    · rw [List.mem_singleton.1 hq]
      exact hb

theorem flagsOffset?_of_mirrors (h : book.Mirrors shelf) {index : Nat}
    (hindex : index < book.entries.length) :
    book.flagsOffset? index = some (contentOf (book.entries.take index)).length := by
  have hfield : schema.fixedOffset? "flags" schema.current = some 0 := by decide
  have hstart : book.file.offsetOf? index = some (contentOf (book.entries.take index)).length := by
    rw [h.file, handleOf_offsetOf?, if_pos hindex]
  simp only [flagsOffset?, hfield, hstart]
  rfl

theorem patch_flags {xs ys : List Entry} {b : Entry} (h : shelf.Holds (xs ++ b :: ys)) :
    (handleOf (xs ++ b :: ys)).patch (contentOf xs).length
        (Value.word16 b.lift.flags.bits).bytes shelf =
        (.ok (), { shelf with node := .file (contentOf (xs ++ b.lift :: ys)) }) ∧
      handleOf (xs ++ b.lift :: ys) = handleOf (xs ++ b :: ys) := by
  have hold : bytesOf b = [] ++ ((Value.word16 b.flags.bits).bytes ++
      (Record.values b).tail.flatMap Value.bytes) := rfl
  have hnew : bytesOf b.lift = [] ++ ((Value.word16 b.lift.flags.bits).bytes ++
      (Record.values b).tail.flatMap Value.bytes) := rfl
  have hlength : (Value.word16 b.flags.bits).bytes.length =
      (Value.word16 b.lift.flags.bits).bytes.length := by
    simp only [Value.bytes, numberBytes_length]
  exact patch_of_holds h hold hnew hlength

theorem deactivate_of_mirrors (h : book.Mirrors shelf) {index : Nat} {b : Entry}
    (hb : book.entries[index]? = some b) :
    ∃ left after, book.deactivate index shelf = (.ok b.isActive, left, after) ∧
      left.entries = (if b.isActive then book.entries.set index b.lift else book.entries) ∧
      left.Mirrors after := by
  by_cases hactive : b.isActive
  · obtain ⟨hindex, hget⟩ := List.getElem?_eq_some_iff.1 hb
    have hsplit : book.entries =
        book.entries.take index ++ b :: book.entries.drop (index + 1) := by
      rw [← hget, List.getElem_cons_drop, List.take_append_drop]
    have hset : book.entries.set index b.lift =
        book.entries.take index ++ b.lift :: book.entries.drop (index + 1) :=
      List.set_eq_take_append_cons_drop ▸ if_pos hindex
    obtain ⟨hpatch, hhandle⟩ := patch_flags (hsplit ▸ h.holds)
    rw [← hsplit, ← hset] at hpatch hhandle
    refine ⟨⟨book.file, book.entries.set index b.lift⟩,
      { shelf with node := .file (contentOf (book.entries.set index b.lift)) }, ?_, ?_,
      ⟨⟨h.holds.1, rfl⟩, ?_, ?_⟩⟩
    · have hoffset : Book.flagsOffset? ⟨book.file, book.entries.set index b.lift⟩ index =
          some (contentOf (book.entries.take index)).length := flagsOffset?_of_mirrors h hindex
      rw [← h.file] at hpatch
      simp only [deactivate, hb, hactive, hoffset, hpatch]
      rfl
    · rw [if_pos hactive]
    · rw [hhandle, h.file]
    · intro q hq
      rcases List.mem_or_eq_of_mem_set hq with hq | rfl
      · exact h.fits q hq
      · exact Entry.fits_lift (h.fits b (List.mem_of_getElem? hb))
  · refine ⟨book, shelf, ?_, by rw [if_neg hactive], h⟩
    simp [deactivate, hb, hactive]

theorem deactivateAll_of_mirrors (h : book.Mirrors shelf) {indices : List Nat}
    (hindices : ∀ index ∈ indices, index < book.entries.length) :
    ∃ left after, book.deactivateAll indices shelf = (.ok (), left, after) ∧
      left.entries.length = book.entries.length ∧ left.Mirrors after := by
  induction indices generalizing book shelf with
  | nil => exact ⟨book, shelf, rfl, rfl, h⟩
  | cons index indices ih =>
      have hindex := hindices index List.mem_cons_self
      obtain ⟨next, between, hfirst, hentries, hnext⟩ :=
        deactivate_of_mirrors h (List.getElem?_eq_getElem hindex)
      have hlength : next.entries.length = book.entries.length := by
        rw [hentries]
        split
        · exact List.length_set
        · rfl
      obtain ⟨left, after, hrest, hleft, hmirrors⟩ := ih hnext fun i hi => by
        rw [hlength]
        exact hindices i (List.mem_cons_of_mem _ hi)
      refine ⟨left, after, ?_, hleft.trans hlength, hmirrors⟩
      rw [deactivateAll, hfirst]
      exact hrest

theorem mem_indicesOf {holds : Entry → Bool} {index : Nat} :
    index ∈ book.indicesOf holds ↔ ∃ b, book.entries[index]? = some b ∧ holds b := by
  simp only [indicesOf, List.mem_map, List.mem_filter, Prod.exists]
  constructor
  · rintro ⟨b, i, ⟨hmem, hholds⟩, rfl⟩
    exact ⟨b, List.mem_zipIdx_iff_getElem?.1 hmem, hholds⟩
  · rintro ⟨b, hb, hholds⟩
    exact ⟨b, index, ⟨List.mem_zipIdx_iff_getElem?.2 hb, hholds⟩, rfl⟩

theorem lt_of_mem_against {p : Match.Player} {b : Entry} {index : Nat}
    (h : (b, index) ∈ book.against p) : index < book.entries.length :=
  (List.mem_zipIdx' (List.mem_filter.1 h).1).1

theorem check_of_mirrors (h : book.Mirrors shelf) (now : UInt64) (p : Match.Player) :
    ∃ found left after, book.check now p shelf = (.ok found, left, after) ∧
      left.Mirrors after := by
  have hexpired : ∀ index ∈ ((book.against p).partition (·.1.isExpired now)).1.map Prod.snd,
      index < book.entries.length := by
    intro index hindex
    obtain ⟨⟨b, i⟩, hmem, rfl⟩ := List.mem_map.1 hindex
    rw [List.partition_eq_filter_filter] at hmem
    exact lt_of_mem_against (List.mem_filter.1 hmem).1
  obtain ⟨left, after, hall, -, hleft⟩ := deactivateAll_of_mirrors h hexpired
  have hcheck : ∃ found, book.check now p shelf = (.ok found, left, after) := by
    simp only [check, hall]
    exact ⟨_, rfl⟩
  obtain ⟨found, hcheck⟩ := hcheck
  exact ⟨found, left, after, hcheck, hleft⟩

theorem reopen_of_mirrors (h : book.Mirrors shelf) (now : UInt64) :
    Book.openAt now shelf = (.ok book, shelf) := by
  rw [Book.openAt, h.agrees.reopened now]

end Book

namespace Step

variable {book : Book} {shelf : Shelf}

theorem run_of_mirrors (h : book.Mirrors shelf) {s : Step} (hs : s.Fits) :
    ∃ result left after, s.run book shelf = (result, left, after) ∧ left.Mirrors after ∧
      ∀ e, result = .error e → ∃ index, book.entries.length ≤ index ∧ s = .deactivate index ∧
        e = .outOfRange index := by
  cases s with
  | add now p banner reason duration kinds annotate =>
      obtain ⟨left, after, henter, -, hleft⟩ := Book.enter_of_mirrors h (hs _ rfl)
      refine ⟨.ok (), left, after, ?_, hleft, nofun⟩
      simp only [run, Book.add, henter]
      rfl
  | enter b =>
      obtain ⟨left, after, henter, -, hleft⟩ := Book.enter_of_mirrors h (hs b rfl)
      refine ⟨.ok (), left, after, ?_, hleft, nofun⟩
      simp only [run, henter]
      rfl
  | deactivate index =>
      cases hb : book.entries[index]? with
      | none =>
          refine ⟨.error (.outOfRange index), book, shelf, ?_, h, ?_⟩
          · simp only [run, Book.deactivate, hb]
            rfl
          · rintro e ⟨⟩
            exact ⟨index, List.getElem?_eq_none_iff.1 hb, rfl, rfl⟩
      | some b =>
          obtain ⟨left, after, hdeactivate, -, hleft⟩ := Book.deactivate_of_mirrors h hb
          refine ⟨.ok (), left, after, ?_, hleft, nofun⟩
          simp only [run, hdeactivate]
          rfl
  | check now p =>
      obtain ⟨found, left, after, hcheck, hleft⟩ := Book.check_of_mirrors h now p
      refine ⟨.ok (), left, after, ?_, hleft, nofun⟩
      simp only [run, hcheck]
      rfl
  | reopen now =>
      refine ⟨.ok (), book, shelf, ?_, h, nofun⟩
      simp only [run, Book.reopen_of_mirrors h]

theorem runAll_of_mirrors (h : book.Mirrors shelf) {steps : List Step}
    (hsteps : ∀ s ∈ steps, s.Fits) :
    (runAll steps book shelf).1.Mirrors (runAll steps book shelf).2 := by
  induction steps generalizing book shelf with
  | nil => exact h
  | cons s steps ih =>
      obtain ⟨result, left, after, hrun, hleft, -⟩ :=
        run_of_mirrors h (hsteps s List.mem_cons_self)
      simp only [runAll, hrun]
      exact ih hleft fun q hq => hsteps q (List.mem_cons_of_mem _ hq)

end Step

/-- From a file that is not there yet, list and file never come apart, and nothing that is done with
a book fails but the lifting of a ban that it does not have. -/
theorem list_and_file_never_come_apart {shelf : Shelf} (hlocked : shelf.locked = false)
    (hmissing : shelf.node = .missing) (now : UInt64) :
    ∃ book created, Book.openAt now shelf = (.ok book, created) ∧ book.entries = [] ∧
      ∀ steps : List Step, (∀ s ∈ steps, s.Fits) →
        ∃ left after, Step.runAll steps book created = (left, after) ∧ left.Agrees after ∧
          ∀ s : Step, s.Fits → ∀ e, (s.run left after).1 = .error e →
            ∃ index, left.entries.length ≤ index ∧ s = .deactivate index ∧
              e = .outOfRange index := by
  obtain ⟨book, created, hopen, hempty, hbook⟩ := Book.mirrors_of_created hlocked hmissing now
  refine ⟨book, created, hopen, hempty, fun steps hsteps => ?_⟩
  have hleft := Step.runAll_of_mirrors hbook hsteps
  refine ⟨_, _, rfl, hleft.agrees, fun s hs e he => ?_⟩
  obtain ⟨result, next, behind, hrun, -, hfails⟩ := Step.run_of_mirrors hleft hs
  rw [hrun] at he
  exact hfails e he

theorem list_and_file_never_come_apart_after_lifting :
    let player : Match.Player := { (default : Match.Player) with hardwareId := "h" }
    let steps := [.enter { issued := 1, account := 7, name := "é" },
      .add 2 player "b" "" 9 .chat fun b => [("id", b.hardwareId)], .deactivate 0,
      .check 11 player, .reopen 12]
    (∀ s ∈ steps, Step.Fits s) ∧ ∃ book created, Book.openAt 5 {} = (.ok book, created) ∧
      ∃ left after, Step.runAll steps book created = (left, after) ∧ left.Agrees after := by
  intro player steps
  have hsteps : ∀ s ∈ steps, Step.Fits s := by decide
  obtain ⟨book, created, hopen, -, hall⟩ :=
    list_and_file_never_come_apart (show ({} : Shelf).locked = false from rfl) rfl 5
  obtain ⟨left, after, hrun, hagrees, -⟩ := hall steps hsteps
  exact ⟨hsteps, book, created, hopen, left, after, hrun, hagrees⟩

end RemoteConsole.Ban
