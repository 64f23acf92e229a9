import RemoteConsole.Proofs.Ladder.Restart

namespace RemoteConsole.Ladder

open List
open Store (Failure Fits RecordFile Shelf contentOf handleOf)

/-- The entries that a step is to take off the ladder. -/
def Step.erased (step : Step) (s : Standings) : List Entry :=
  match step with
  | erase => s.entries
  | credit .. | append _ | write | sort => []

namespace Standings

variable {s left : Standings} {shelf after : Shelf} {e : Failure}

theorem append_of_error {entry : Entry} (h : s.append entry shelf = (.error e, left, after)) :
    e = .io ∧ left = s ∧ after = shelf := by
  unfold append at h
  split at h
  · cases h
  · simp only [RecordFile.append, Store.encode_eq] at h
    cases hwrite : shelf.write s.file.eof (Store.bytesOf entry) with
    | error e =>
        rw [hwrite] at h
        cases h
        exact ⟨Store.Shelf.write_of_error hwrite, rfl, rfl⟩
    | ok written =>
        rw [hwrite] at h
        cases h

theorem erase_of_error (h : s.erase shelf = (.error e, left, after)) :
    e = .io ∧ left = { file := s.file } ∧ after = shelf := by
  unfold erase at h
  split at h
  · rename_i hwrite
    cases h
    obtain ⟨hio, hafter⟩ := Store.writeAll_of_error hwrite
    exact ⟨hio, rfl, hafter⟩
  · cases h

theorem Indexed.eq_of_no_entries (h : s.Indexed) (hnone : s.entries = []) :
    s = { file := s.file } := by
  obtain ⟨file, entries, order, index⟩ := s
  obtain rfl : entries = [] := hnone
  have horder : order = [] := h.order.eq_nil
  cases index with
  | nil => rw [horder]
  | cons p index =>
      have hfound := (h.index p.1 p.2).1 (by simp [indexOf?])
      cases hfound

theorem Survives.ranked_eq {t : Standings} (hs : s.Survives shelf) (ht : t.Survives shelf) :
    s.ranked = t.ranked := by
  obtain ⟨found, hfound, hranked⟩ := hs 0
  obtain ⟨other, hother, hother'⟩ := ht 0
  rw [hfound] at hother
  cases hother
  rw [← hranked, hother']

end Standings

/-- A call of append or erase that fails leaves the ladder as it was exactly if it was to erase no
entry. Otherwise the entries are gone from the ladder while the file still holds them, and the next
opening brings them back. -/
theorem failed_call_keeps_the_ladder_iff_it_erases_nothing {s left : Standings} {step : Step}
    {shelf after : Shelf} {e : Failure} (hs : Reachable s)
    (hstep : (∃ entry, step = .append entry) ∨ step = .erase)
    (hfailed : step.run s shelf = (.error e, left, after)) :
    e = .io ∧ after = shelf ∧
      ((left.entries = s.entries ∧ left.order = s.order ∧ left.index = s.index) ↔
        step.erased s = []) ∧
      (step.erased s = [] → left = s) ∧
      (step.erased s ≠ [] → left = { file := s.file } ∧
        (Unbroken s shelf → s.Survives after ∧ ¬ left.Survives after)) := by
  rcases hstep with ⟨entry, rfl⟩ | rfl
  · obtain ⟨rfl, rfl, rfl⟩ := Standings.append_of_error hfailed
    exact ⟨rfl, rfl, iff_of_true ⟨rfl, rfl, rfl⟩ rfl, fun _ => rfl, fun hsome => absurd rfl hsome⟩
  · obtain ⟨rfl, rfl, rfl⟩ := Standings.erase_of_error hfailed
    have hcoherent := hs.coherent
    have hkept (hnone : s.entries = []) : { file := s.file } = s :=
      (hcoherent.toIndexed.eq_of_no_entries hnone).symm
    refine ⟨rfl, rfl, ⟨fun ⟨hentries, _⟩ => hentries.symm, fun hnone => ?_⟩, hkept,
      fun hsome => ⟨rfl, fun hheld => ⟨hheld.backed.survives, fun hleft => ?_⟩⟩⟩
    · rw [hkept hnone]
      exact ⟨rfl, rfl, rfl⟩
    · have hempty : s.ranked = [] := hheld.backed.survives.ranked_eq hleft
      have hnone := hcoherent.listed
      rw [hempty] at hnone
      exact hsome hnone.symm.eq_nil

theorem failed_call_keeps_the_ladder_iff_it_erases_nothing_of_a_locked_file :
    let ann : Entry := { account := 7, totals := { score := 4 }, name := "Ann" }
    let bob : Entry := { account := 9, name := "Bob" }
    let shelf : Shelf := { node := .file (contentOf [ann]), locked := true }
    let s := Standings.restored (handleOf [ann]) [ann]
    Standings.openAt 5 shelf = (.ok s, shelf) ∧
      (Step.append bob).run s shelf = (.error .io, s, shelf) ∧
      ∃ left, Step.erase.run s shelf = (.error .io, left, shelf) ∧ left.entries ≠ s.entries ∧
        s.Survives shelf ∧ ¬ left.Survives shelf := by
  intro ann bob shelf s
  have hfile : RecordFile.openAt 5 shelf = (.ok ⟨handleOf [ann], [ann], .loaded⟩, shelf) :=
    Store.openAt_of_content rfl (by decide) 5
  have hopen : Standings.openAt 5 shelf = (.ok s, shelf) := Standings.openAt_eq_restored hfile
  have hs : Reachable s := .opened hopen
  have hheld : Unbroken s shelf := .opened hfile not_false hopen
  have happend : (Step.append bob).run s shelf = (.error .io, (s.append bob shelf).2.1, shelf) := by
    decide +kernel
  have herase : Step.erase.run s shelf = (.error .io, { file := s.file }, shelf) := rfl
  have hentries : Step.erase.erased s ≠ [] := by decide +kernel
  obtain ⟨-, -, -, hkept, -⟩ :=
    failed_call_keeps_the_ladder_iff_it_erases_nothing hs (.inl ⟨bob, rfl⟩) happend
  obtain ⟨-, -, -, -, hlost⟩ :=
    failed_call_keeps_the_ladder_iff_it_erases_nothing hs (.inr rfl) herase
  obtain ⟨hsurvives, hgone⟩ := (hlost hentries).2 hheld
  refine ⟨hopen, ?_, _, herase, fun hsame => ?_, hsurvives, hgone⟩
  · rw [happend, hkept rfl]
  · exact hentries hsame.symm

/-- A directory stands in the way while the ladder is erased. Its entries are gone at once. They come
back when the file is opened again, but a ladder that is written before that loses them. -/
theorem a_ladder_erased_in_vain_is_empty_until_it_is_opened_again :
    let ann : Entry := { account := 7, totals := { score := 4 }, name := "Ann" }
    let shelf : Shelf := { node := .file (contentOf [ann]) }
    let s := Standings.restored (handleOf [ann]) [ann]
    let left : Standings := { file := handleOf [ann] }
    Standings.openAt 5 shelf = (.ok s, shelf) ∧ s.entries = [{ ann with rank := 1 }] ∧
      s.erase { node := .directory } = (.error .io, left, { node := .directory }) ∧
      left.entries = [] ∧ Standings.openAt 6 shelf = (.ok s, shelf) ∧
      (left.write shelf).2.2 = { node := .file (contentOf ([] : List Entry)) } := by
  decide +kernel

end RemoteConsole.Ladder
