import Mathlib.Data.List.TakeWhile
import RemoteConsole.Text.Blank
import RemoteConsole.Text.Letters
import RemoteConsole.Text.Pieces

namespace RemoteConsole.Text

variable {α : Type}

/-- Split at the separators, a list is one whole piece, or one that a separator and a further list
follow. -/
@[elab_as_elim]
theorem split_induction {α : Type} (separator : α) {motive : List α → Prop}
    (whole : ∀ xs, separator ∉ xs → motive xs)
    (cut : ∀ xs ys, separator ∉ xs → motive ys → motive (xs ++ separator :: ys))
    (xs : List α) : motive xs := by
  induction hlength : xs.length using Nat.strongRecOn generalizing xs with
  | _ n ih =>
      by_cases hmem : separator ∈ xs
      · obtain ⟨piece, rest, rfl, hpiece⟩ := List.eq_append_cons_of_mem hmem
        refine cut piece rest hpiece (ih rest.length ?_ rest rfl)
        simp only [List.length_append, List.length_cons] at hlength
        omega
      · exact whole xs hmem

section Split

variable [BEq α] {separator : α}

theorem piecesOf_eq_splitOn (xs : List α) : piecesOf separator xs = xs.splitOn separator := by
  induction xs with
  | nil =>
      rw [List.splitOn_nil]
      rfl
  | cons x xs ih =>
      rw [List.splitOn_cons_eq_if_modifyHead, ← ih]
      cases hpieces : piecesOf separator xs with
      | nil => exact absurd (ih ▸ hpieces) (List.splitOn_ne_nil separator xs)
      | cons piece pieces =>
          rw [piecesOf] at hpieces ⊢
          rw [List.foldr_cons, hpieces]
          rfl

variable [LawfulBEq α]

theorem splitOn_append_of_not_mem {xs : List α} (h : separator ∉ xs) (ys : List α) :
    (xs ++ ys).splitOn separator = (ys.splitOn separator).modifyHead (xs ++ ·) := by
  induction xs with
  | nil =>
      obtain ⟨piece, pieces, hpieces⟩ :=
        List.exists_cons_of_ne_nil (List.splitOn_ne_nil separator ys)
      simp [hpieces]
  | cons x xs ih =>
      obtain ⟨hx, hxs⟩ := not_or.1 (mt List.mem_cons.2 h)
      rw [List.cons_append, List.splitOn_cons_eq_if_modifyHead, if_neg (by simpa using Ne.symm hx),
        ih hxs, List.modifyHead_modifyHead]
      rfl

theorem splitOn_intercalate_concat {parts : List (List α)} {last : List α}
    (h : ∀ part ∈ parts, separator ∉ part) :
    ([separator].intercalate (parts ++ [last])).splitOn separator =
      parts ++ last.splitOn separator := by
  induction parts with
  | nil => simp
  | cons part parts ih =>
      obtain ⟨hpart, hparts⟩ := List.forall_mem_cons.1 h
      rw [List.cons_append, List.intercalate_cons_of_ne_nil (by simp), List.append_assoc,
        List.singleton_append, List.splitOn_append_cons_self_of_not_mem hpart, ih hparts,
        List.cons_append]

theorem length_splitOn (xs : List α) : (xs.splitOn separator).length = xs.count separator + 1 := by
  induction xs using split_induction separator with
  | whole xs h => rw [List.splitOn_eq_singleton h, List.count_eq_zero_of_not_mem h]; rfl
  | cut xs ys h ih =>
      rw [List.splitOn_append_cons_self_of_not_mem h, List.length_cons, ih, List.count_append,
        List.count_eq_zero_of_not_mem h, List.count_cons_self, Nat.zero_add]

theorem not_mem_of_mem_splitOn {xs piece : List α} (h : piece ∈ xs.splitOn separator) :
    separator ∉ piece := by
  induction xs using split_induction separator with
  | whole xs hxs =>
      rw [List.splitOn_eq_singleton hxs, List.mem_singleton] at h
      rwa [h]
  | cut xs ys hxs ih =>
      rw [List.splitOn_append_cons_self_of_not_mem hxs] at h
      rcases List.mem_cons.1 h with rfl | h
      · exact hxs
      · exact ih h

end Split

section Pieces

variable {separator : Char}

theorem pieces_of_not_mem {s : String} (h : separator ∉ s.toList) : pieces separator s = [s] := by
  rw [pieces, piecesOf_eq_splitOn, List.splitOn_eq_singleton h]
  simp

theorem join_pieces (s : String) : join (String.singleton separator) (pieces separator s) = s := by
  rw [join, pieces, piecesOf_eq_splitOn, List.map_map]
  simp [List.intercalate_splitOn]

theorem after?_eq_some_iff {start s rest : String} :
    after? start s = some rest ↔ s = start ++ rest := by
  unfold after?
  rw [← String.toList_inj, String.toList_append]
  constructor
  · intro h
    split at h
    · rename_i hprefix
      cases h
      rw [String.toList_ofList]
      exact (List.prefix_iff_eq_append.1 (List.isPrefixOf_iff_prefix.1 hprefix)).symm
    · cases h
  · intro h
    rw [h, if_pos (List.isPrefixOf_iff_prefix.2 (List.prefix_append _ _)), List.drop_left,
      String.ofList_toList]

end Pieces

section Cut

variable {p : α → Bool} {xs before after : List α}

theorem cutAt?_append_cons {x : α} (hbefore : ∀ y ∈ before, p y = false) (hx : p x = true) :
    cutAt? p (before ++ x :: after) = some (before, after) := by
  have hpass : ∀ y ∈ before, (!p y) = true := by simpa using hbefore
  rw [cutAt?, List.dropWhile_append_of_pos hpass, List.takeWhile_append_of_pos hpass]
  simp [hx]

theorem cutAt?_eq_some_iff : cutAt? p xs = some (before, after) ↔
    (∀ y ∈ before, p y = false) ∧ ∃ x, p x = true ∧ xs = before ++ x :: after := by
  constructor
  · intro h
    have hxs := List.takeWhile_append_dropWhile (p := fun y => !p y) (l := xs)
    rw [cutAt?] at h
    split at h
    · cases h
    · rename_i x rest hdrop
      cases h
      have hx := List.head_dropWhile_not (fun y => !p y) (l := xs) (by simp [hdrop])
      simp only [hdrop, List.head_cons, Bool.not_eq_false'] at hx
      exact ⟨fun y hy => by simpa using List.mem_takeWhile_imp hy, x, hx, by rw [← hdrop, hxs]⟩
  · rintro ⟨hbefore, x, hx, rfl⟩
    exact cutAt?_append_cons hbefore hx

theorem cutAt?_separator_eq_some_iff [BEq α] [LawfulBEq α] {separator : α} :
    cutAt? (· == separator) xs = some (before, after) ↔
      separator ∉ before ∧ xs = before ++ separator :: after := by
  simp only [cutAt?_eq_some_iff, beq_iff_eq, beq_eq_false_iff_ne, ne_eq, exists_eq_left]
  exact and_congr_left' ⟨fun h hmem => h _ hmem rfl, fun h y hy heq => h (heq ▸ hy)⟩

end Cut

section Blanks

theorem dropWhile_isBlank {cs : List Char} (h : ∀ c ∈ cs, isBlank c = false) :
    cs.dropWhile isBlank = cs := by
  cases cs with
  | nil => rfl
  | cons c cs => rw [List.dropWhile_cons_of_neg (by simp [h c List.mem_cons_self])]

theorem trim_of_no_blank {s : String} (h : ∀ c ∈ s.toList, isBlank c = false) : trim s = s := by
  have hback : ∀ c ∈ s.toList.reverse, isBlank c = false := by simpa using h
  rw [trim, trimChars, dropWhile_isBlank h, dropWhile_isBlank hback, List.reverse_reverse,
    String.ofList_toList]

theorem trim_empty : trim "" = "" := rfl

theorem trim_cons_of_blank {c : Char} (h : isBlank c = true) (cs : List Char) :
    trim (.ofList (c :: cs)) = trim (.ofList cs) := by
  rw [trim, trim, String.toList_ofList, String.toList_ofList, trimChars, trimChars,
    List.dropWhile_cons_of_pos h]

def wordPart (s : String) : String :=
  .ofList (s.toList.takeWhile (!isBlank ·))

def restPart (s : String) : String :=
  .ofList (s.toList.dropWhile (!isBlank ·))

/-- The first word of a text that begins with none but it, and what follows it. -/
structure FirstWord (text word rest : String) : Prop where
  whole : text = word ++ rest
  ne_empty : word ≠ ""
  solid : ∀ c ∈ word.toList, isBlank c = false
  ends : ∀ c ∈ rest.toList.head?, isBlank c = true

theorem firstWord_iff {text word rest : String} :
    FirstWord text word rest ↔ word ≠ "" ∧ word = wordPart text ∧ rest = restPart text := by
  constructor
  · intro h
    have htext : text.toList = word.toList ++ rest.toList := by rw [h.whole, String.toList_append]
    have hpass : ∀ c ∈ word.toList, (!isBlank c) = true := by simpa using h.solid
    have hends : rest.toList = [] ∨ ∃ c cs, rest.toList = c :: cs ∧ isBlank c = true := by
      cases hrest : rest.toList with
      | nil => exact .inl rfl
      | cons c cs => exact .inr ⟨c, cs, rfl, h.ends c (by rw [hrest]; rfl)⟩
    have hword : text.toList.takeWhile (!isBlank ·) = word.toList := by
      rw [htext, List.takeWhile_append_of_pos hpass]
      rcases hends with hnil | ⟨c, cs, hcons, hblank⟩
      · simp [hnil]
      · simp [hcons, hblank]
    have hrest : text.toList.dropWhile (!isBlank ·) = rest.toList := by
      rw [htext, List.dropWhile_append_of_pos hpass]
      rcases hends with hnil | ⟨c, cs, hcons, hblank⟩
      · simp [hnil]
      · simp [hcons, hblank]
    exact ⟨h.ne_empty, by rw [wordPart, hword, String.ofList_toList],
      by rw [restPart, hrest, String.ofList_toList]⟩
  · rintro ⟨hword, rfl, rfl⟩
    refine ⟨?_, hword, ?_, ?_⟩
    · rw [wordPart, restPart, ← String.ofList_append, List.takeWhile_append_dropWhile,
        String.ofList_toList]
    · intro c hc
      rw [wordPart, String.toList_ofList] at hc
      simpa using List.mem_takeWhile_imp hc
    · intro c hc
      rw [restPart, String.toList_ofList] at hc
      have := List.head?_dropWhile_not (!isBlank ·) text.toList
      grind

end Blanks

theorem lowerAscii_eq_iff {a b : String} :
    lowerAscii a = lowerAscii b ↔ sameLetters a b = true := by
  rw [lowerAscii, lowerAscii, sameLetters, beq_iff_eq, ← String.toList_inj, String.toList_ofList,
    String.toList_ofList]

end RemoteConsole.Text
