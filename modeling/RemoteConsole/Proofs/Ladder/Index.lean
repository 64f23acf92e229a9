import Mathlib.Data.List.Basic
import RemoteConsole.Ladder.Standings
import RemoteConsole.Proofs.Ladder.Order

namespace RemoteConsole.Ladder

open List

namespace Standings

structure Indexed (s : Standings) : Prop where
  order : s.order ~ range s.entries.length
  index : ∀ account i,
    s.indexOf? account = some i ↔ (s.entries.map Entry.account)[i]? = some account

variable {s : Standings}

theorem filterMap_getElem? {entries : List Entry} {order : List Nat}
    (h : ∀ i ∈ order, i < entries.length) :
    order.filterMap (entries[·]?) = order.map fun i => entries[i]?.getD default := by
  rw [← filterMap_eq_map']
  refine filterMap_congr fun i hi => ?_
  rw [getElem?_eq_getElem (h i hi), Option.getD_some]

namespace Indexed

theorem lt_of_mem (h : s.Indexed) {i : Nat} (hi : i ∈ s.order) : i < s.entries.length :=
  mem_range.1 (h.order.mem_iff.1 hi)

theorem nodup (h : s.Indexed) : s.order.Nodup :=
  h.order.nodup_iff.2 nodup_range

theorem unique (h : s.Indexed) : (s.entries.map Entry.account).Nodup := by
  refine pairwise_iff_getElem.2 fun i j hi hj hij heq => ?_
  have hfirst := (h.index _ i).2 (getElem?_eq_getElem hi)
  have hsecond := (h.index _ j).2 (getElem?_eq_getElem hj)
  rw [← heq, hfirst] at hsecond
  exact absurd (Option.some.inj hsecond) (Nat.ne_of_lt hij)

theorem indexOf?_eq_none (h : s.Indexed) {account : AccountId} :
    s.indexOf? account = none ↔ account ∉ s.entries.map Entry.account := by
  simp only [Option.eq_none_iff_forall_ne_some, ne_eq, h.index, mem_iff_getElem?, not_exists]

theorem of_entries (h : s.Indexed) {entries : List Entry}
    (hsame : entries.map Entry.account = s.entries.map Entry.account) :
    Indexed { s with entries } where
  order := by
    have hlength := congrArg length hsame
    simp only [length_map] at hlength
    rw [hlength]
    exact h.order
  index account i := by
    rw [hsame]
    exact h.index account i

theorem ranked_perm (h : s.Indexed) : s.ranked ~ s.entries := by
  have hrange : (range s.entries.length).filterMap (s.entries[·]?) = s.entries := by
    rw [filterMap_getElem? fun i hi => mem_range.1 hi]
    refine ext_getElem (by simp) fun i hi _ => ?_
    simp [getElem?_eq_getElem (show i < s.entries.length by simpa using hi)]
  have hperm := h.order.filterMap (s.entries[·]?)
  rwa [hrange] at hperm

theorem ranked_getElem? (h : s.Indexed) (place : Nat) :
    s.ranked[place]? = (s.order[place]?).bind (s.entries[·]?) := by
  rw [ranked, filterMap_getElem? fun i hi => h.lt_of_mem hi, getElem?_map]
  cases hplace : s.order[place]? with
  | none => rfl
  | some i =>
      have hlt := h.lt_of_mem (mem_of_getElem? hplace)
      simp only [Option.map_some, Option.bind_some, getElem?_eq_getElem hlt, Option.getD_some]

theorem ofAccount?_eq_some (h : s.Indexed) {account : AccountId} {e : Entry} :
    s.ofAccount? account = some e ↔ e ∈ s.ranked ∧ e.account = account := by
  rw [h.ranked_perm.mem_iff]
  constructor
  · intro hfound
    obtain ⟨i, hi, he⟩ := Option.bind_eq_some_iff.1 hfound
    rw [h.index, getElem?_map, he] at hi
    exact ⟨mem_of_getElem? he, Option.some.inj hi⟩
  · rintro ⟨he, rfl⟩
    obtain ⟨i, hi⟩ := mem_iff_getElem?.1 he
    have hindex : s.indexOf? e.account = some i := by
      rw [h.index, getElem?_map, hi]
      rfl
    rw [ofAccount?, hindex]
    exact hi

end Indexed

theorem indexOf?_push (e : Entry) (account : AccountId) :
    (s.push e).indexOf? account =
      (s.indexOf? account).or (if e.account = account then some s.entries.length else none) := by
  simp only [indexOf?, push, find?_append, Option.map_or]
  by_cases hsame : e.account = account <;> simp [hsame]

theorem Indexed.push (h : s.Indexed) {e : Entry} (hnew : s.indexOf? e.account = none) :
    (s.push e).Indexed where
  order := by
    simp only [Standings.push, length_append, length_singleton, range_succ]
    exact h.order.append_right _
  index account i := by
    rw [indexOf?_push]
    simp only [Standings.push, map_append, map_cons, map_nil]
    by_cases hsame : e.account = account
    · subst hsame
      rw [hnew, Option.none_or, if_pos rfl]
      have habsent := h.indexOf?_eq_none.1 hnew
      constructor
      · intro hi
        rw [← Option.some.inj hi]
        simp
      · intro hi
        rcases Nat.lt_or_ge i (s.entries.map Entry.account).length with hlt | hge
        · rw [getElem?_append_left hlt] at hi
          exact absurd (mem_of_getElem? hi) habsent
        · rw [getElem?_append_right hge, length_map, getElem?_singleton] at hi
          split at hi
          · rw [length_map] at hge
            exact congrArg some (by omega)
          · cases hi
    · rw [if_neg hsame, Option.or_none, h.index]
      rcases Nat.lt_or_ge i (s.entries.map Entry.account).length with hlt | hge
      · rw [getElem?_append_left hlt]
      · rw [getElem?_append_right hge, getElem?_eq_none hge, getElem?_singleton]
        split <;> simp [hsame]

theorem Indexed.ranked_push (h : s.Indexed) (e : Entry) : (s.push e).ranked = s.ranked ++ [e] := by
  have hold : ∀ i ∈ s.order, (s.entries ++ [e])[i]? = s.entries[i]? :=
    fun i hi => getElem?_append_left (h.lt_of_mem hi)
  simp only [ranked, Standings.push, filterMap_append, filterMap_congr hold]
  simp

theorem Indexed.sort (h : s.Indexed) : s.sort.Indexed where
  order := (mergeSort_perm _ _).trans h.order
  index := h.index

theorem Indexed.ranked_sort (h : s.Indexed) : s.sort.ranked = bestFirst s.ranked := by
  have hentries : s.sort.entries = s.entries := rfl
  rw [ranked, filterMap_getElem? fun i hi => h.sort.lt_of_mem hi, hentries]
  rw [ranked, filterMap_getElem? fun i hi => h.lt_of_mem hi]
  refine map_mergeSort fun i hi j hj => ?_
  simp only [scoreAt, Entry.notBelow, getElem?_eq_getElem (h.lt_of_mem hi),
    getElem?_eq_getElem (h.lt_of_mem hj), Option.map_some, Option.getD_some]

def givePlace (entries : List Entry) (p : Nat × Nat) : List Entry :=
  entries.modify p.1 ({ · with rank := p.2 + 1 })

theorem map_modify {α : Type} {f : Entry → Entry} {g : Entry → α} (h : ∀ e, g (f e) = g e)
    (entries : List Entry) (i : Nat) : (entries.modify i f).map g = entries.map g := by
  refine ext_getElem? fun j => ?_
  rw [getElem?_map, getElem?_map, getElem?_modify]
  cases entries[j]? with
  | none => rfl
  | some e =>
      simp only [Option.map_eq_map, Option.map_some]
      split
      · rw [h]
      · rfl

theorem givePlace_self (entries : List Entry) (i place : Nat) :
    (givePlace entries (i, place))[i]? = (entries[i]?).map ({ · with rank := place + 1 }) := by
  simp [givePlace]

theorem givePlace_of_ne {p : Nat × Nat} {i : Nat} (h : p.1 ≠ i) (entries : List Entry) :
    (givePlace entries p)[i]? = entries[i]? := by
  simp [givePlace, h]

theorem map_foldl_givePlace {α : Type} {g : Entry → α} (h : ∀ e rank, g { e with rank } = g e)
    (places : List (Nat × Nat)) (entries : List Entry) :
    (places.foldl givePlace entries).map g = entries.map g := by
  induction places generalizing entries with
  | nil => rfl
  | cons p places ih => rw [foldl_cons, ih, givePlace, map_modify fun e => h e _]

theorem foldl_givePlace_of_not_mem {places : List (Nat × Nat)} {i : Nat}
    (hi : i ∉ places.map Prod.fst) (entries : List Entry) :
    (places.foldl givePlace entries)[i]? = entries[i]? := by
  induction places generalizing entries with
  | nil => rfl
  | cons p places ih =>
      rw [map_cons, mem_cons, not_or] at hi
      rw [foldl_cons, ih hi.2, givePlace_of_ne (Ne.symm hi.1)]

theorem foldl_givePlace_of_mem {places : List (Nat × Nat)} (hnodup : (places.map Prod.fst).Nodup)
    {i place : Nat} (hi : (i, place) ∈ places) (entries : List Entry) :
    (places.foldl givePlace entries)[i]? =
      (entries[i]?).map ({ · with rank := place + 1 }) := by
  induction places generalizing entries with
  | nil => exact absurd hi not_mem_nil
  | cons p places ih =>
      rw [map_cons, nodup_cons] at hnodup
      rw [foldl_cons]
      rcases mem_cons.1 hi with rfl | hi
      · rw [foldl_givePlace_of_not_mem hnodup.1, givePlace_self]
      · have hne : p.1 ≠ i := fun heq => hnodup.1 (heq ▸ mem_map_of_mem (f := Prod.fst) hi)
        rw [ih hnodup.2 hi, givePlace_of_ne hne]

theorem Indexed.assignRanks (h : s.Indexed) : s.assignRanks.Indexed :=
  h.of_entries (map_foldl_givePlace (fun _ _ => rfl) _ _)

theorem Indexed.ranked_assignRanks (h : s.Indexed) : s.assignRanks.ranked = numbered s.ranked := by
  refine ext_getElem? fun place => ?_
  rw [h.assignRanks.ranked_getElem?, numbered, getElem?_mapIdx, h.ranked_getElem?]
  change (s.order[place]?).bind ((s.order.zipIdx.foldl givePlace s.entries)[·]?) = _
  cases hplace : s.order[place]? with
  | none => rfl
  | some i =>
      have hmem : (i, place) ∈ s.order.zipIdx := mem_zipIdx_iff_getElem?.2 hplace
      have hnodup : (s.order.zipIdx.map Prod.fst).Nodup := by
        rw [zipIdx_map_fst]
        exact h.nodup
      exact foldl_givePlace_of_mem hnodup hmem s.entries

theorem ofAccount?_assignRanks (s : Standings) (account : AccountId) :
    (s.assignRanks.ofAccount? account).map Entry.unranked =
      (s.ofAccount? account).map Entry.unranked := by
  have hentries : s.assignRanks.entries.map Entry.unranked = s.entries.map Entry.unranked :=
    map_foldl_givePlace (fun _ _ => rfl) s.order.zipIdx s.entries
  change ((s.indexOf? account).bind (s.assignRanks.entries[·]?)).map _ = _
  rw [ofAccount?]
  cases s.indexOf? account with
  | none => rfl
  | some i =>
      simp only [Option.bind_some]
      rw [← getElem?_map, hentries, getElem?_map]

end Standings

end RemoteConsole.Ladder
