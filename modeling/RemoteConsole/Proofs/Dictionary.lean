import RemoteConsole.Dictionary

namespace RemoteConsole

section Pairs

variable {α : Type}

theorem insertPair_of_last {key : String} {value : α} {pairs : List (String × α)}
    (h : ∀ p ∈ pairs, p.1 < key) : insertPair key value pairs = pairs ++ [(key, value)] := by
  induction pairs with
  | nil => rfl
  | cons q rest ih =>
      have hq : q.1 < key := h q List.mem_cons_self
      have hne : key ≠ q.1 := fun he => String.lt_irrefl _ (he ▸ hq)
      have hnlt : ¬ key < q.1 := fun hlt => String.lt_irrefl _ (String.lt_trans hlt hq)
      have hrest := ih fun p hp => h p (List.mem_cons_of_mem _ hp)
      rw [insertPair, if_neg hnlt, if_neg hne, hrest]
      rfl

theorem insertPair_length_le (key : String) (value : α) (pairs : List (String × α)) :
    (insertPair key value pairs).length ≤ pairs.length + 1 := by
  induction pairs with
  | nil => exact Nat.le_refl 1
  | cons q rest ih =>
      rw [insertPair]
      split
      · exact Nat.le_refl _
      · split
        · exact Nat.le_succ _
        · exact Nat.succ_le_succ ih

theorem lookup_cons_eq_ite (word : String) (p : String × α) (pairs : List (String × α)) :
    (p :: pairs).lookup word = if word = p.1 then some p.2 else pairs.lookup word := by
  obtain ⟨key, value⟩ := p
  rw [List.lookup_cons]
  by_cases hword : word = key
  · rw [if_pos hword, beq_iff_eq.2 hword]
  · rw [if_neg hword, beq_eq_false_iff_ne.2 hword]

theorem lookup_insertPair (key word : String) (value : α) (pairs : List (String × α)) :
    (insertPair key value pairs).lookup word =
      if word = key then some value else pairs.lookup word := by
  induction pairs with
  | nil => exact lookup_cons_eq_ite word (key, value) []
  | cons q rest ih =>
      rw [insertPair]
      split
      · exact lookup_cons_eq_ite word (key, value) (q :: rest)
      · split
        · rename_i hkey
          rw [lookup_cons_eq_ite, lookup_cons_eq_ite, ← hkey]
          split <;> rfl
        · rename_i hkey
          rw [lookup_cons_eq_ite, lookup_cons_eq_ite, ih]
          split
          · rename_i hword
            rw [if_neg fun h => hkey (h.symm.trans hword)]
          · rfl

end Pairs

namespace Dictionary

theorem ext {d e : Dictionary} (h : d.pairs = e.pairs) : d = e := by
  cases d
  cases e
  cases h
  rfl

theorem insertAll_cons (d : Dictionary) (p : Pair) (pairs : List Pair) :
    d.insertAll (p :: pairs) = (d.insert p.1 p.2).insertAll pairs :=
  rfl

theorem insertAll_pairs_of_sorted {d : Dictionary} {pairs : List Pair}
    (h : (d.pairs ++ pairs).Pairwise (·.1 < ·.1)) :
    (d.insertAll pairs).pairs = d.pairs ++ pairs := by
  induction pairs generalizing d with
  | nil => simp [insertAll]
  | cons p rest ih =>
      have hlast : ∀ q ∈ d.pairs, q.1 < p.1 := fun q hq =>
        (List.pairwise_append.1 h).2.2 q hq p List.mem_cons_self
      have hinsert : (d.insert p.1 p.2).pairs = d.pairs ++ [p] := insertPair_of_last hlast
      rw [insertAll_cons, ih, hinsert, List.append_assoc]
      · rfl
      · rw [hinsert, List.append_assoc]
        exact h

theorem insertAll_self (d : Dictionary) : empty.insertAll d.pairs = d :=
  ext (insertAll_pairs_of_sorted d.sorted)

theorem size_insert_le (d : Dictionary) (key value : String) :
    (d.insert key value).size ≤ d.size + 1 :=
  insertPair_length_le key value d.pairs

theorem forall_insert {P : Pair → Prop} {d : Dictionary} {key value : String}
    (h : ∀ p ∈ d.pairs, P p) (hnew : P (key, value)) : ∀ p ∈ (d.insert key value).pairs, P p := by
  intro p hp
  rcases mem_insertPair hp with rfl | hp
  · exact hnew
  · exact h p hp

end Dictionary

end RemoteConsole
