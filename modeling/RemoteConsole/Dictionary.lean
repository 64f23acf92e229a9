namespace RemoteConsole

abbrev Pair := String × String

section Pairs

variable {α : Type}

/-- Puts a pair in its place; the old value of its key goes. -/
def insertPair (key : String) (value : α) : List (String × α) → List (String × α)
  | [] => [(key, value)]
  | (k, v) :: rest =>
    if key < k then (key, value) :: (k, v) :: rest
    else if key = k then (key, value) :: rest
    else (k, v) :: insertPair key value rest

theorem mem_insertPair {key : String} {value : α} {p : String × α} {pairs : List (String × α)}
    (h : p ∈ insertPair key value pairs) : p = (key, value) ∨ p ∈ pairs := by
  induction pairs with
  | nil => exact Or.inl (by simpa [insertPair] using h)
  | cons q rest ih =>
    simp only [insertPair] at h
    split at h
    · simpa using h
    · split at h
      · rcases List.mem_cons.1 h with h | h
        · exact Or.inl h
        · exact Or.inr (List.mem_cons_of_mem _ h)
      · rcases List.mem_cons.1 h with h | h
        · exact Or.inr (h ▸ List.mem_cons_self)
        · exact (ih h).imp_right (List.mem_cons_of_mem _)

theorem insertPair_sorted {key : String} {value : α} {pairs : List (String × α)}
    (h : pairs.Pairwise (·.1 < ·.1)) : (insertPair key value pairs).Pairwise (·.1 < ·.1) := by
  induction pairs with
  | nil => simp [insertPair]
  | cons q rest ih =>
    have hq := List.pairwise_cons.1 h
    simp only [insertPair]
    split
    next hlt =>
      refine List.pairwise_cons.2 ⟨fun p hp => ?_, h⟩
      rcases List.mem_cons.1 hp with rfl | hp
      · exact hlt
      · exact String.lt_trans hlt (hq.1 p hp)
    next hlt =>
      split
      next heq => exact List.pairwise_cons.2 ⟨fun p hp => heq ▸ hq.1 p hp, hq.2⟩
      next hne =>
        have hgt : q.1 < key := Std.lt_of_le_of_ne (String.not_lt.1 hlt) (Ne.symm hne)
        refine List.pairwise_cons.2 ⟨fun p hp => ?_, ih hq.2⟩
        rcases mem_insertPair hp with rfl | hp
        · exact hgt
        · exact hq.1 p hp

end Pairs

structure Dictionary where
  pairs : List Pair
  sorted : pairs.Pairwise (·.1 < ·.1)
  deriving DecidableEq

namespace Dictionary

def empty : Dictionary :=
  ⟨[], .nil⟩

instance : Inhabited Dictionary := ⟨empty⟩

def size (d : Dictionary) : Nat :=
  d.pairs.length

def insert (d : Dictionary) (key value : String) : Dictionary :=
  ⟨insertPair key value d.pairs, insertPair_sorted d.sorted⟩

def insertAll (d : Dictionary) (pairs : List Pair) : Dictionary :=
  pairs.foldl (fun d p => d.insert p.1 p.2) d

def ofPairs (pairs : List Pair) : Dictionary :=
  insertAll empty pairs

end Dictionary

end RemoteConsole
