import RemoteConsole.Proofs.Wire.Framing

namespace RemoteConsole.Wire

theorem content?_eq_some {line content : Bytes} :
    content? line = some content ↔ stripReturn line = content ∧ content ≠ [] := by
  rw [content?]
  split
  · rename_i hempty
    rw [List.isEmpty_iff] at hempty
    simp [hempty, eq_comm]
  · rename_i hsome
    rw [List.isEmpty_iff] at hsome
    constructor
    · rintro ⟨⟩
      exact ⟨rfl, hsome⟩
    · rintro ⟨rfl, -⟩
      rfl

section Cuts

variable {limit start : Nat} {stream line : Bytes}

theorem not_outgrows_of_whole (h : (start, line) ∈ placedLines stream) :
    ¬ Outgrows limit [stream] start line := by
  have hended := (placedFrom_within h).2
  rw [Nat.zero_add] at hended
  have hbegun : ([] : List Bytes).flatten.length ≤ start + line.length := Nat.zero_le _
  rw [← List.nil_append [stream], outgrows_concat_of_ends hbegun (by simpa using hended)]
  simp

theorem outgrows_of_cut (h : (start, line) ∈ placedLines stream) (hlong : limit < line.length) :
    Outgrows limit [stream.take (start + limit + 1), stream.drop (start + limit + 1)] start
      line := by
  have hended := (placedFrom_within h).2
  rw [Nat.zero_add] at hended
  refine ⟨[stream.take (start + limit + 1)], List.prefix_append _ _, ?_, ?_⟩ <;>
    simp only [List.flatten_singleton, List.length_take] <;> omega

end Cuts

theorem delivers_all_iff (limit : Nat) (chunks : List Bytes) :
    (Framer.feedAll chunks { limit }).1 = (endedLines chunks.flatten).filterMap content? ↔
      ∀ start line, (start, line) ∈ outgrown limit chunks → content? line = none := by
  have hperm := (spared_append_outgrown_perm limit chunks).filterMap content?
  have hlength := hperm.length_eq
  rw [List.filterMap_append, List.length_append] at hlength
  rw [(Framer.feedAll_eq limit chunks).1]
  constructor
  · intro hall start line hlost
    rw [hall] at hlength
    have hnone := List.eq_nil_of_length_eq_zero (Nat.add_eq_left.1 hlength)
    rw [List.filterMap_eq_nil_iff] at hnone
    exact hnone line (List.mem_map_of_mem hlost)
  · intro hempty
    have hnone : ((outgrown limit chunks).map Prod.snd).filterMap content? = [] := by
      rw [List.filterMap_eq_nil_iff]
      intro line hline
      obtain ⟨⟨start, line⟩, hlost, rfl⟩ := List.mem_map.1 hline
      exact hempty start line hlost
    rw [hnone, List.length_nil, Nat.add_zero] at hlength
    exact ((spared_sublist limit chunks).filterMap content?).eq_of_length hlength

theorem delivers_all_of_whole (limit : Nat) (stream : Bytes) :
    (Framer.feedAll [stream] { limit }).1 = (endedLines stream).filterMap content? := by
  have hall := delivers_all_iff limit [stream]
  rw [List.flatten_singleton] at hall
  apply hall.2
  intro start line hlost
  obtain ⟨hplaced, houtgrows⟩ := mem_outgrown.1 hlost
  rw [List.flatten_singleton] at hplaced
  exact absurd houtgrows (not_outgrows_of_whole hplaced)

/-- A delivered line is within the limit unless it came without a cut behind that many of its
bytes. -/
theorem delivers_within_limit_iff (limit : Nat) (chunks : List Bytes) :
    (∀ line ∈ (Framer.feedAll chunks { limit }).1, line.length ≤ limit) ↔
      ∀ start line, (start, line) ∈ placedLines chunks.flatten →
        limit < (stripReturn line).length → Outgrows limit chunks start line := by
  rw [(Framer.feedAll_eq limit chunks).1]
  constructor
  · intro hwithin start line hplaced hlong
    by_contra hspared
    have hcontent : content? line = some (stripReturn line) :=
      content?_eq_some.2 ⟨rfl, List.ne_nil_of_length_pos (by omega)⟩
    have hline : line ∈ (spared limit chunks).map Prod.snd :=
      List.mem_map_of_mem (mem_spared.2 ⟨hplaced, hspared⟩)
    have := hwithin _ (List.mem_filterMap.2 ⟨line, hline, hcontent⟩)
    omega
  · intro hcut content hdelivered
    obtain ⟨line, hline, hcontent⟩ := List.mem_filterMap.1 hdelivered
    obtain ⟨⟨start, line⟩, hspared, rfl⟩ := List.mem_map.1 hline
    obtain ⟨hplaced, hnot⟩ := mem_spared.1 hspared
    obtain ⟨rfl, -⟩ := content?_eq_some.1 hcontent
    by_contra hlong
    exact hnot (hcut start line hplaced (Nat.lt_of_not_le hlong))

/-- What is delivered of a stream depends on its cuts exactly if a line that has content is beyond
the limit. -/
theorem delivers_alike_iff (limit : Nat) (stream : Bytes) :
    (∀ chunks others : List Bytes, chunks.flatten = stream → others.flatten = stream →
        (Framer.feedAll chunks { limit }).1 = (Framer.feedAll others { limit }).1) ↔
      ∀ line ∈ endedLines stream, limit < line.length → stripReturn line = [] := by
  constructor
  · intro halike line hline hlong
    rw [← placedLines_lines] at hline
    obtain ⟨⟨start, line⟩, hplaced, rfl⟩ := List.mem_map.1 hline
    have hflatten : [stream.take (start + limit + 1), stream.drop (start + limit + 1)].flatten =
        stream := by simp
    have hall := halike _ [stream] hflatten List.flatten_singleton
    rw [delivers_all_of_whole] at hall
    have hnone := (delivers_all_iff limit _).1 (by rwa [hflatten]) start line
      (mem_outgrown.2 ⟨by rwa [hflatten], outgrows_of_cut hplaced hlong⟩)
    by_contra hcontent
    rw [content?_eq_some.2 ⟨rfl, hcontent⟩] at hnone
    cases hnone
  · intro hempty
    have hall : ∀ chunks : List Bytes, chunks.flatten = stream →
        (Framer.feedAll chunks { limit }).1 = (endedLines stream).filterMap content? := by
      rintro chunks rfl
      apply (delivers_all_iff limit chunks).2
      intro start line hlost
      obtain ⟨hplaced, houtgrows⟩ := mem_outgrown.1 hlost
      have hline : line ∈ endedLines chunks.flatten := by
        rw [← placedLines_lines]
        exact List.mem_map_of_mem hplaced
      simp [content?, hempty line hline houtgrows.long]
    intro chunks others hchunks hothers
    rw [hall chunks hchunks, hall others hothers]

/-- No line beyond the limit is delivered exactly if each is cut behind so many of its bytes and in
front of its newline; and cuts make a difference exactly for lines beyond the limit. -/
theorem long_lines_are_lost_iff_cut (limit : Nat) :
    (∀ chunks : List Bytes,
      (∀ line ∈ (Framer.feedAll chunks { limit }).1, line.length ≤ limit) ↔
        ∀ start line, (start, line) ∈ placedLines chunks.flatten →
          limit < (stripReturn line).length → Outgrows limit chunks start line) ∧
      ∀ stream : Bytes,
        (∀ chunks others : List Bytes, chunks.flatten = stream → others.flatten = stream →
          (Framer.feedAll chunks { limit }).1 = (Framer.feedAll others { limit }).1) ↔
        ∀ line ∈ endedLines stream, limit < line.length → stripReturn line = [] :=
  ⟨delivers_within_limit_iff limit, delivers_alike_iff limit⟩

/-- With a limit of eight bytes a line of ten is delivered if it comes with its newline, and lost if
the newline comes later. -/
theorem a_long_line_is_delivered_if_it_comes_whole :
    let line : Bytes := [48, 49, 50, 51, 52, 53, 54, 55, 56, 57]
    (Framer.feedAll [line ++ [newline]] { limit := 8 }).1 = [line] ∧
      (Framer.feedAll [line, [newline]] { limit := 8 }).1 = [] := by
  intro line
  rw [(Framer.feedAll_eq 8 _).1, (Framer.feedAll_eq 8 _).1]
  decide

end RemoteConsole.Wire
