import RemoteConsole.Proofs.Ladder.Entry

namespace RemoteConsole.Ladder

open List

def Entry.notBelow (a b : Entry) : Bool :=
  decide (b.totals.score ≤ a.totals.score)

def bestFirst (entries : List Entry) : List Entry :=
  entries.mergeSort Entry.notBelow

def numbered (entries : List Entry) : List Entry :=
  entries.mapIdx fun place e => { e with rank := place + 1 }

theorem notBelow_trans (a b c : Entry) (hab : a.notBelow b) (hbc : b.notBelow c) :
    a.notBelow c := by
  simp only [Entry.notBelow, decide_eq_true_eq] at hab hbc ⊢
  exact UInt64.le_trans hbc hab

theorem notBelow_total (a b : Entry) : a.notBelow b || b.notBelow a := by
  simp only [Entry.notBelow, Bool.or_eq_true, decide_eq_true_eq]
  exact UInt64.le_total _ _

theorem bestFirst_perm (entries : List Entry) : bestFirst entries ~ entries :=
  mergeSort_perm entries _

theorem bestFirst_pairwise (entries : List Entry) :
    (bestFirst entries).Pairwise fun a b => a.notBelow b :=
  pairwise_mergeSort notBelow_trans notBelow_total entries

theorem bestFirst_of_pairwise {entries : List Entry}
    (h : entries.Pairwise fun a b => a.notBelow b) : bestFirst entries = entries :=
  mergeSort_of_pairwise h

theorem pair_bestFirst {entries : List Entry} {a b : Entry} (hab : a.notBelow b)
    (h : [a, b] <+ entries) : [a, b] <+ bestFirst entries :=
  pair_sublist_mergeSort notBelow_trans notBelow_total hab h

theorem bestFirst_map {f : Entry → Entry} (hf : ∀ e, (f e).totals.score = e.totals.score)
    (entries : List Entry) : bestFirst (entries.map f) = (bestFirst entries).map f := by
  refine (map_mergeSort fun a _ b _ => ?_).symm
  simp only [Entry.notBelow, hf]

theorem filter_bestFirst (score : UInt64) (entries : List Entry) :
    (bestFirst entries).filter (·.totals.score == score) =
      entries.filter (·.totals.score == score) := by
  have hsame : (entries.filter (·.totals.score == score)).Pairwise fun a b => a.notBelow b := by
    have hscore {e : Entry} (he : e ∈ entries.filter (·.totals.score == score)) :
        e.totals.score = score := by
      simpa using (mem_filter.1 he).2
    refine pairwise_iff_forall_sublist.2 fun {a b} hab => ?_
    have ha := hscore (hab.subset mem_cons_self)
    have hb := hscore (hab.subset (mem_cons_of_mem _ mem_cons_self))
    simp only [Entry.notBelow, ha, hb, decide_eq_true_eq]
    exact UInt64.le_refl _
  have hsublist := sublist_mergeSort notBelow_trans notBelow_total hsame filter_sublist
  have hfilter := hsublist.filter (·.totals.score == score)
  rw [filter_filter] at hfilter
  simp only [Bool.and_self] at hfilter
  exact (hfilter.eq_of_length ((bestFirst_perm entries).filter _).length_eq.symm).symm

/-- Entries that are sorted are told by the entries of each score. -/
theorem eq_of_filter_eq {xs ys : List Entry} (hx : xs.Pairwise fun a b => a.notBelow b)
    (hy : ys.Pairwise fun a b => a.notBelow b)
    (h : ∀ score, xs.filter (·.totals.score == score) = ys.filter (·.totals.score == score)) :
    xs = ys := by
  have hmem {xs ys : List Entry} (h : ∀ score, xs.filter (·.totals.score == score) =
      ys.filter (·.totals.score == score)) {e : Entry} (he : e ∈ xs) : e ∈ ys := by
    have hin : e ∈ xs.filter (·.totals.score == e.totals.score) := mem_filter.2 ⟨he, by simp⟩
    rw [h] at hin
    exact (mem_filter.1 hin).1
  induction xs generalizing ys with
  | nil =>
      cases ys with
      | nil => rfl
      | cons y ys => exact absurd (hmem (fun score => (h score).symm) mem_cons_self) not_mem_nil
  | cons x xs ih =>
      cases ys with
      | nil => exact absurd (hmem h mem_cons_self) not_mem_nil
      | cons y ys =>
          obtain ⟨hxFirst, hxRest⟩ := pairwise_cons.1 hx
          obtain ⟨hyFirst, hyRest⟩ := pairwise_cons.1 hy
          -- The heads are the first of their scores in either list, so they scored the same.
          have hscore : y.totals.score = x.totals.score := by
            refine UInt64.le_antisymm ?_ ?_
            · rcases mem_cons.1 (hmem (fun score => (h score).symm) (mem_cons_self (a := y)))
                with rfl | hin
              · exact UInt64.le_refl _
              · simpa [Entry.notBelow] using hxFirst y hin
            · rcases mem_cons.1 (hmem h (mem_cons_self (a := x))) with rfl | hin
              · exact UInt64.le_refl _
              · simpa [Entry.notBelow] using hyFirst x hin
          have hheads := h x.totals.score
          rw [filter_cons_of_pos (by simp), filter_cons_of_pos (by simp [hscore])] at hheads
          obtain ⟨rfl, -⟩ := cons_eq_cons.1 hheads
          refine congrArg (x :: ·) (ih hxRest hyRest fun score => ?_)
          have hall := h score
          rw [filter_cons, filter_cons] at hall
          split at hall
          · exact (cons_eq_cons.1 hall).2
          · exact hall

theorem bestFirst_append (xs ys : List Entry) :
    bestFirst (bestFirst xs ++ ys) = bestFirst (xs ++ ys) := by
  refine eq_of_filter_eq (bestFirst_pairwise _) (bestFirst_pairwise _) fun score => ?_
  rw [filter_bestFirst, filter_bestFirst, filter_append, filter_append, filter_bestFirst]

theorem numbered_map {f : Entry → Entry}
    (hf : ∀ e place, { f e with rank := place } = { e with rank := place })
    (entries : List Entry) : numbered (entries.map f) = numbered entries := by
  refine ext_getElem? fun i => ?_
  simp only [numbered, getElem?_mapIdx, getElem?_map, Option.map_map]
  refine congrArg (Option.map · _) (funext fun e => ?_)
  simp only [Function.comp_apply, hf]

theorem map_numbered {α : Type} {f : Entry → α} (hf : ∀ e place, f { e with rank := place } = f e)
    (entries : List Entry) : (numbered entries).map f = entries.map f := by
  refine ext_getElem? fun i => ?_
  simp only [numbered, getElem?_mapIdx, getElem?_map, Option.map_map]
  refine congrArg (Option.map · _) (funext fun e => ?_)
  simp only [Function.comp_apply, hf]

theorem numbered_pairwise {entries : List Entry}
    (h : entries.Pairwise fun a b => a.notBelow b) :
    (numbered entries).Pairwise fun a b => a.notBelow b := by
  have hscores (xs : List Entry) : (xs.Pairwise fun a b => a.notBelow b) ↔
      (xs.map (·.totals.score)).Pairwise (fun m n => n ≤ m) := by
    simp only [pairwise_map, Entry.notBelow, decide_eq_true_eq]
  rw [hscores] at h ⊢
  rwa [map_numbered fun _ _ => rfl]

end RemoteConsole.Ladder
