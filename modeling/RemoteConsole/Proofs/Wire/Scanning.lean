import RemoteConsole.Proofs.Wire.Framing

namespace RemoteConsole.Wire

/-- A framer that has looked at so many bytes of its buffer in vain. -/
structure Scanner extends Framer where
  scanned : Nat := 0

namespace Scanner

def push (s : Scanner) (data : Bytes) : Scanner :=
  { s with buffer := s.buffer ++ data }

/-- The next line, as `Framer.next` gives it; nothing at all if the search starts outside of the
buffer, or the line ends there. -/
def next? (s : Scanner) : Option (Option Bytes × Scanner) :=
  if s.buffer.length < s.scanned then none
  else
    match (s.buffer.drop s.scanned).findIdx? (· == newline) with
    | none =>
      if s.limit < s.buffer.length then
        some (none, { s with buffer := [], discarding := true, scanned := 0 })
      else some (none, { s with scanned := s.buffer.length })
    | some offset =>
      let ending := s.scanned + offset
      if _within : ending + 1 ≤ s.buffer.length then
        let line := stripReturn (s.buffer.take ending)
        let behind := { s with
          buffer := s.buffer.drop (ending + 1), discarding := false, scanned := 0 }
        if s.discarding || line.isEmpty then next? behind
        else some (some line, behind)
      else none
termination_by s.buffer.length
decreasing_by
  simp only [List.length_drop]
  omega

theorem next?_some_length {s after : Scanner} {line : Bytes}
    (h : s.next? = some (some line, after)) : after.buffer.length < s.buffer.length := by
  induction hlength : s.buffer.length using Nat.strongRecOn generalizing s with
  | _ n ih =>
      rw [next?] at h
      split at h
      · cases h
      · split at h
        · split at h <;> cases h
        · dsimp only at h
          split at h
          · split at h
            · refine Nat.lt_trans (ih _ ?_ h rfl) ?_ <;> simp only [List.length_drop] <;> omega
            · cases h
              simp only [List.length_drop]
              omega
          · cases h

/-- All lines that have arrived, if no index leaves the buffer. -/
def drain? (s : Scanner) : Option (List Bytes × Scanner) :=
  match h : s.next? with
  | none => none
  | some (none, after) => some ([], after)
  | some (some line, after) =>
    have := next?_some_length h
    match drain? after with
    | none => none
    | some (lines, left) => some (line :: lines, left)
termination_by s.buffer.length

theorem drain?_of_next?_none {s after : Scanner} (h : s.next? = some (none, after)) :
    s.drain? = some ([], after) := by
  rw [drain?]
  split <;> rename_i heq <;> rw [h] at heq <;> cases heq
  rfl

theorem drain?_of_next?_some {s after left : Scanner} {line : Bytes} {lines : List Bytes}
    (h : s.next? = some (some line, after)) (hafter : after.drain? = some (lines, left)) :
    s.drain? = some (line :: lines, left) := by
  rw [drain?]
  split <;> rename_i heq <;> rw [h] at heq <;> cases heq
  rw [hafter]

def feed? (s : Scanner) (chunk : Bytes) : Option (List Bytes × Scanner) :=
  (s.push chunk).drain?

def feedAll? : List Bytes → Scanner → Option (List Bytes × Scanner)
  | [], s => some ([], s)
  | chunk :: chunks, s =>
    match s.feed? chunk with
    | none => none
    | some (lines, s) =>
      match feedAll? chunks s with
      | none => none
      | some (further, s) => some (lines ++ further, s)

structure Sound (s : Scanner) : Prop where
  within : s.scanned ≤ s.buffer.length
  searched : newline ∉ s.buffer.take s.scanned

theorem sound_of_unscanned {s : Scanner} (h : s.scanned = 0) : s.Sound where
  within := by omega
  searched := by simp [h]

theorem Sound.push {s : Scanner} (h : s.Sound) (data : Bytes) : (s.push data).Sound where
  within := by
    have := h.within
    simp only [Scanner.push, List.length_append]
    omega
  searched := by
    rw [Scanner.push, List.take_append_of_le_length h.within]
    exact h.searched

theorem Sound.findIdx? {s : Scanner} (h : s.Sound) {line rest : Bytes}
    (hbuffer : s.buffer = line ++ newline :: rest) (hline : newline ∉ line) :
    ∃ offset, (s.buffer.drop s.scanned).findIdx? (· == newline) = some offset ∧
      s.scanned + offset = line.length := by
  have hscanned : s.scanned ≤ line.length := by
    by_contra hbeyond
    apply h.searched
    rw [hbuffer, List.take_append, List.mem_append]
    right
    obtain ⟨k, hk⟩ := Nat.exists_eq_succ_of_ne_zero (n := s.scanned - line.length) (by omega)
    rw [hk, List.take_succ_cons]
    exact List.mem_cons_self
  refine ⟨line.length - s.scanned, ?_, by omega⟩
  have hleft : newline ∉ line.drop s.scanned := mt List.mem_of_mem_drop hline
  have hnone : (line.drop s.scanned).findIdx? (· == newline) = none := by
    rw [List.findIdx?_eq_none_iff]
    intro b hb
    exact beq_false_of_ne (ne_of_mem_of_not_mem hb hleft)
  rw [hbuffer, List.drop_append_of_le_length hscanned, List.findIdx?_append, hnone]
  simp [List.findIdx?_cons]

theorem next?_of_sound {s : Scanner} (h : s.Sound) :
    ∃ after, s.next? = some (s.toFramer.next.1, after) ∧ after.toFramer = s.toFramer.next.2 ∧
      after.Sound := by
  induction hlength : s.buffer.length using Nat.strongRecOn generalizing s with
  | _ n ih =>
      have hwithin := h.within
      by_cases hmem : newline ∈ s.buffer
      · obtain ⟨line, rest, hbuffer, hline⟩ := List.eq_append_cons_of_mem hmem
        obtain ⟨offset, hfind, hending⟩ := h.findIdx? hbuffer hline
        have hends : s.scanned + offset + 1 ≤ s.buffer.length := by
          rw [hending, hbuffer, List.length_append, List.length_cons]
          omega
        have htake : s.buffer.take (s.scanned + offset) = line := by
          rw [hending, hbuffer, List.take_left]
        have hdrop : s.buffer.drop (s.scanned + offset + 1) = rest := by
          rw [hending, hbuffer, List.drop_append, List.drop_of_length_le (by omega)]
          simp
        rw [Framer.next_of_line hbuffer hline, next?, if_neg (by omega), hfind]
        dsimp only
        rw [dif_pos hends, htake, hdrop]
        split
        -- a line that is skipped leaves a shorter buffer, which is searched from its start
        · refine ih rest.length ?_ (sound_of_unscanned rfl) rfl
          rw [← hlength, hbuffer, List.length_append, List.length_cons]
          omega
        · exact ⟨_, rfl, rfl, sound_of_unscanned rfl⟩
      · have hnone : (s.buffer.drop s.scanned).findIdx? (· == newline) = none := by
          rw [List.findIdx?_eq_none_iff]
          intro b hb
          exact beq_false_of_ne (ne_of_mem_of_not_mem (List.mem_of_mem_drop hb) hmem)
        rw [Framer.next_of_open hmem, next?, if_neg (by omega), hnone, Framer.settle]
        dsimp only
        split
        · exact ⟨_, rfl, rfl, sound_of_unscanned rfl⟩
        · exact ⟨_, rfl, rfl, Nat.le_refl _, by simpa using hmem⟩

theorem drain?_of_sound {s : Scanner} (h : s.Sound) :
    ∃ after, s.drain? = some (s.toFramer.drain.1, after) ∧ after.toFramer = s.toFramer.drain.2 ∧
      after.Sound := by
  induction hlength : s.buffer.length using Nat.strongRecOn generalizing s with
  | _ n ih =>
      obtain ⟨after, hnext?, hafter, hsound⟩ := next?_of_sound h
      rcases hnext : s.toFramer.next with ⟨_ | line, framer⟩
      · rw [hnext] at hnext? hafter
        rw [Framer.drain_of_next_none hnext]
        exact ⟨after, drain?_of_next?_none hnext?, hafter, hsound⟩
      · rw [hnext] at hnext? hafter
        have hshort := next?_some_length hnext?
        rw [hlength] at hshort
        obtain ⟨left, hdrain?, hleft, hleftSound⟩ := ih _ hshort hsound rfl
        rw [hafter] at hdrain? hleft
        rw [Framer.drain_of_next_some hnext]
        exact ⟨left, drain?_of_next?_some hnext? hdrain?, hleft, hleftSound⟩

theorem feedAll?_of_sound {s : Scanner} (h : s.Sound) (chunks : List Bytes) :
    ∃ after, feedAll? chunks s = some ((Framer.feedAll chunks s.toFramer).1, after) ∧
      after.toFramer = (Framer.feedAll chunks s.toFramer).2 ∧ after.Sound := by
  induction chunks generalizing s with
  | nil => exact ⟨s, rfl, rfl, h⟩
  | cons chunk chunks ih =>
      obtain ⟨next, hfeed, hnext, hnextSound⟩ := drain?_of_sound (h.push chunk)
      obtain ⟨after, hfeedAll, hafter, hafterSound⟩ := ih hnextSound
      have hframer : next.toFramer = (s.toFramer.feed chunk).2 := hnext
      rw [hframer] at hfeedAll hafter
      refine ⟨after, ?_, hafter, hafterSound⟩
      rw [feedAll?, feed?, hfeed]
      dsimp only
      rw [hfeedAll]
      rfl

end Scanner

/-- However a stream is cut: no index leaves the buffer, each line within the limit is delivered
once, in its place and whole, and only whole lines beyond the limit are lost. What is left is the
open line, as long as that is within the limit. -/
theorem framing_loses_only_long_lines (limit : Nat) (chunks : List Bytes) :
    ∃ lines left, Scanner.feedAll? chunks { limit } = some (lines, left) ∧
      Framer.feedAll chunks { limit } = (lines, left.toFramer) ∧
      lines.Sublist ((endedLines chunks.flatten).filterMap content?) ∧
      (∃ kept lost : List Bytes, lines = kept.filterMap content? ∧
        kept.Sublist (endedLines chunks.flatten) ∧
        kept.filter (·.length ≤ limit) = (endedLines chunks.flatten).filter (·.length ≤ limit) ∧
        (kept ++ lost).Perm (endedLines chunks.flatten) ∧ ∀ line ∈ lost, limit < line.length) ∧
      (left.buffer = openLine chunks.flatten ↔ (openLine chunks.flatten).length ≤ limit) := by
  obtain ⟨left, hscanner, hleft, -⟩ :=
    Scanner.feedAll?_of_sound (Scanner.sound_of_unscanned (s := { limit }) rfl) chunks
  obtain ⟨hlines, hfollows⟩ := Framer.feedAll_eq limit chunks
  have hkept := spared_sublist limit chunks
  refine ⟨_, left, hscanner, Prod.ext rfl hleft.symm, ?_, ⟨_, _, hlines, hkept,
    spared_filter_short limit chunks, spared_append_outgrown_perm limit chunks, ?_⟩, ?_, ?_⟩
  · rw [hlines]
    exact hkept.filterMap content?
  · intro line hline
    obtain ⟨⟨start, line⟩, hlost, rfl⟩ := List.mem_map.1 hline
    exact (mem_outgrown.1 hlost).2.long
  · intro hbuffer
    rw [← hbuffer, hleft]
    exact hfollows.short
  · intro hshort
    rw [hleft]
    exact hfollows.buffer (Bool.eq_false_iff.2 (mt hfollows.discarding.1 (Nat.not_lt.2 hshort)))

end RemoteConsole.Wire
