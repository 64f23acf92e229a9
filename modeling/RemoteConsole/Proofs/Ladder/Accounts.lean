import RemoteConsole.Proofs.Ladder.Standings

namespace RemoteConsole.Ladder.Standings

open List

variable {s : Standings}

theorem Indexed.mem_accounts (h : s.Indexed) {account : AccountId} :
    account ∈ s.entries.map Entry.account ↔ ∃ e, s.ofAccount? account = some e := by
  simp only [h.ofAccount?_eq_some, h.ranked_perm.mem_iff, mem_map]

theorem Indexed.exists_ofAccount? (h : s.Indexed) {account : AccountId} {i : Nat}
    (hi : s.indexOf? account = some i) : ∃ e, s.ofAccount? account = some e := by
  rw [ofAccount?, hi]
  rw [h.index, getElem?_map] at hi
  obtain ⟨e, he, -⟩ := Option.map_eq_some_iff.1 hi
  exact ⟨e, he⟩

theorem ofAccount?_eq_none {account : AccountId} (h : s.indexOf? account = none) :
    s.ofAccount? account = none := by
  rw [ofAccount?, h]
  rfl

theorem Indexed.ofAccount?_modify (h : s.Indexed) {account : AccountId} {i : Nat}
    (hi : s.indexOf? account = some i) (f : Entry → Entry) (other : AccountId) :
    ofAccount? { s with entries := s.entries.modify i f } other =
      if other = account then (s.ofAccount? other).map f else s.ofAccount? other := by
  change (s.indexOf? other).bind ((s.entries.modify i f)[·]?) = _
  rw [ofAccount?]
  split
  · rename_i hsame
    rw [hsame, hi]
    simp
  · rename_i hother
    cases hj : s.indexOf? other with
    | none => rfl
    | some j =>
        have hne : i ≠ j := by
          rintro rfl
          rw [h.index] at hi hj
          exact hother (Option.some.inj (hj.symm.trans hi))
        simp [hne]

theorem Indexed.ofAccount?_push (h : s.Indexed) {e : Entry} (hnew : s.indexOf? e.account = none)
    (other : AccountId) :
    (s.push e).ofAccount? other = if other = e.account then some e else s.ofAccount? other := by
  rw [ofAccount?, indexOf?_push, ofAccount?]
  by_cases hsame : e.account = other
  · rw [if_pos hsame, if_pos hsame.symm, ← hsame, hnew]
    simp [Standings.push]
  · rw [if_neg hsame, if_neg (Ne.symm hsame), Option.or_none]
    cases hi : s.indexOf? other with
    | none => rfl
    | some i =>
        rw [h.index] at hi
        have hlt : i < (s.entries.map Entry.account).length :=
          (List.getElem?_eq_some_iff.1 hi).1
        rw [length_map] at hlt
        exact getElem?_append_left hlt

theorem Indexed.ofAccount?_changed (h : s.Indexed) (f : Entry → Entry) (e : Entry)
    (other : AccountId) :
    ofAccount? (match s.indexOf? e.account with
      | some i => { s with entries := s.entries.modify i f }
      | none => s.push e) other =
      if other = e.account then some (((s.ofAccount? other).map f).getD e)
      else s.ofAccount? other := by
  split
  · rename_i i hi
    rw [h.ofAccount?_modify hi]
    split
    · rename_i hsame
      obtain ⟨old, hold⟩ := h.exists_ofAccount? hi
      rw [hsame, hold]
      rfl
    · rfl
  · rename_i hnew
    rw [h.ofAccount?_push hnew]
    split
    · rename_i hsame
      rw [hsame, ofAccount?_eq_none hnew]
      rfl
    · rfl

theorem Indexed.ofAccount?_upsert (h : s.Indexed) (account : AccountId) {f : Entry → Entry}
    (hf : ∀ e, (f e).account = e.account) (other : AccountId) :
    (s.upsert account f).ofAccount? other =
      if other = account then some (f ((s.ofAccount? other).getD { account }))
      else s.ofAccount? other := by
  have haccount : (f { account }).account = account := hf _
  have hchanged := h.ofAccount?_changed f (f { account }) other
  rwa [haccount, Option.getD_map] at hchanged

theorem Indexed.ofAccount?_absorb (h : s.Indexed) (e : Entry) (other : AccountId) :
    (s.absorb e).ofAccount? other =
      if other = e.account then some (((s.ofAccount? other).map (·.merge e)).getD e)
      else s.ofAccount? other :=
  h.ofAccount?_changed (·.merge e) e other

/-- A change that reaches the entry of one account, whose next value depends on nothing else. -/
structure Local {α : Type} (change : Standings → α → Standings) (key : α → AccountId)
    (next : Option Entry → α → Entry) : Prop where
  indexed : ∀ s a, s.Indexed → (change s a).Indexed
  ofAccount? : ∀ s a, s.Indexed → ∀ account, (change s a).ofAccount? account =
    if account = key a then some (next (s.ofAccount? account) a) else s.ofAccount? account

theorem local_absorb :
    Local absorb Entry.account fun held e => (held.map (·.merge e)).getD e where
  indexed _ e h := (growsTo_absorb h e).indexed
  ofAccount? _ e h := h.ofAccount?_absorb e

section Local

variable {α : Type} {change : Standings → α → Standings} {key : α → AccountId}
  {next : Option Entry → α → Entry}

theorem Local.ofAccount?_foldl (h : Local change key next) (hs : s.Indexed) (as : List α)
    (account : AccountId) :
    (as.foldl change s).ofAccount? account =
      (as.filter (key · == account)).foldl (fun held a => some (next held a))
        (s.ofAccount? account) := by
  induction as generalizing s with
  | nil => rfl
  | cons a as ih =>
      rw [foldl_cons, ih (h.indexed s a hs), h.ofAccount? s a hs, filter_cons]
      -- A change that has another key is not looked at on either side.
      by_cases hkey : key a = account
      · rw [if_pos hkey.symm, if_pos (beq_iff_eq.2 hkey), foldl_cons]
      · rw [if_neg (Ne.symm hkey), if_neg (by simpa using hkey)]

theorem foldl_some (next : Option Entry → α → Entry) (as : List α) (e : Entry) :
    as.foldl (fun held a => some (next held a)) (some e) =
      some (as.foldl (fun e a => next (some e) a) e) := by
  induction as generalizing e with
  | nil => rfl
  | cons a as ih => rw [foldl_cons, ih, foldl_cons]

end Local

end RemoteConsole.Ladder.Standings
