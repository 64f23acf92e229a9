import RemoteConsole.Proofs.Wire.Framing

namespace RemoteConsole.Wire

theorem endedLines_append (stream more : Bytes) :
    endedLines (stream ++ more) = endedLines stream ++ endedLines (openLine stream ++ more) := by
  rw [← placedLines_lines, placedLines_append, List.map_append, placedLines_lines, placedFrom_lines]

namespace Framer

/-- The lines that a framer gives of further bytes. The rest of a line that was too long is none. -/
def awaited (f : Framer) (more : Bytes) : List Bytes :=
  let lines := endedLines (f.buffer ++ more)
  (if f.discarding then lines.tail else lines).filterMap content?

theorem next_leaves (f : Framer) :
    (f.next.1 = none → newline ∉ f.next.2.buffer) ∧ f.next.2.limit = f.limit := by
  induction hbuffer : f.buffer using stream_induction generalizing f with
  | opened line hline =>
      subst hbuffer
      rw [next_of_open hline, settle]
      split
      · exact ⟨fun _ => List.not_mem_nil, rfl⟩
      · exact ⟨fun _ => hline, rfl⟩
  | ended line rest hline ih =>
      rw [next_of_line hbuffer hline]
      split
      · exact ih (f.behind rest) rfl
      · exact ⟨fun hnone => absurd hnone (Option.some_ne_none _), rfl⟩

theorem awaited_of_open {f : Framer} {more : Bytes} (h : newline ∉ f.buffer ++ more) :
    f.awaited more = [] := by
  rw [awaited, endedLines_of_open h]
  split <;> rfl

/-- No line outgrows the limit that ends in further bytes. -/
structure Fits (f : Framer) (more : Bytes) : Prop where
  opened : newline ∉ f.buffer
  short : ∀ line ∈ endedLines (f.buffer ++ more), line.length ≤ f.limit

theorem fits_of_open {f : Framer} {more : Bytes} (h : newline ∉ f.buffer ++ more) :
    f.Fits more where
  opened hmem := h (List.mem_append_left more hmem)
  short line hline := by simp [endedLines_of_open h] at hline

variable {f : Framer} {chunk more : Bytes}

theorem Fits.settle (h : f.Fits more) :
    f.settle.Fits more ∧ f.settle.awaited more = f.awaited more := by
  rw [Framer.settle]
  by_cases hlong : f.limit < f.buffer.length
  · rw [if_pos hlong]
    have hmore : newline ∉ more := by
      intro hmem
      obtain ⟨head, rest, rfl, hhead⟩ := List.eq_append_cons_of_mem hmem
      have hfirst : newline ∉ f.buffer ++ head := by simp [h.opened, hhead]
      have hshort := h.short
      rw [← List.append_assoc, endedLines_line hfirst] at hshort
      have := hshort _ List.mem_cons_self
      rw [List.length_append] at this
      omega
    have hopen : newline ∉ f.buffer ++ more := by simp [h.opened, hmore]
    refine ⟨fits_of_open hmore, ?_⟩
    rw [awaited_of_open hopen]
    exact awaited_of_open hmore
  · rw [if_neg hlong]
    exact ⟨h, rfl⟩

theorem Fits.feed (h : f.Fits (chunk ++ more)) :
    (f.feed chunk).2.Fits more ∧
      (f.feed chunk).1 ++ (f.feed chunk).2.awaited more = f.awaited (chunk ++ more) := by
  by_cases hmem : newline ∈ chunk
  · obtain ⟨head, rest, rfl, hhead⟩ := List.eq_append_cons_of_mem hmem
    have hfirst : newline ∉ f.buffer ++ head := by simp [h.opened, hhead]
    have hbuffer : (f.push (head ++ newline :: rest)).buffer =
        (f.buffer ++ head) ++ newline :: rest := (List.append_assoc _ _ _).symm
    have hlines : endedLines (f.buffer ++ (head ++ newline :: rest ++ more)) =
        (f.buffer ++ head) :: (endedLines rest ++ endedLines (openLine rest ++ more)) := by
      rw [← endedLines_append, ← endedLines_line hfirst]
      simp only [List.append_assoc, List.cons_append]
    -- behind the first newline nothing is missing any more
    have hfits : (f.behind (openLine rest)).Fits more := by
      refine ⟨not_mem_openLine rest, fun line hline => h.short line ?_⟩
      rw [hlines]
      exact List.mem_cons_of_mem _ (List.mem_append_right _ hline)
    have hfeed : f.feed (head ++ newline :: rest) =
        ((if f.discarding then [] else (content? (f.buffer ++ head)).toList) ++
          (endedLines rest).filterMap content?, (f.behind (openLine rest)).settle) := by
      rw [Framer.feed, drain_of_line hbuffer hfirst, drain_eq rfl]
      rfl
    obtain ⟨hsettled, hawaited⟩ := hfits.settle
    rw [hfeed]
    refine ⟨hsettled, ?_⟩
    rw [hawaited, awaited, awaited, hlines]
    cases hdiscarding : f.discarding with
    | true => simp [behind, List.filterMap_append]
    | false => cases hcontent : content? (f.buffer ++ head) <;> simp [behind, hcontent]
  · have hopen : newline ∉ (f.push chunk).buffer := by simp [push, h.opened, hmem]
    have hfits : (f.push chunk).Fits more := by
      refine ⟨hopen, fun line hline => h.short line ?_⟩
      rwa [push, List.append_assoc] at hline
    obtain ⟨hsettled, hawaited⟩ := hfits.settle
    rw [Framer.feed, drain_of_open hopen]
    refine ⟨hsettled, ?_⟩
    rw [hawaited, awaited, awaited, push, List.append_assoc]
    rfl

/-- However the rest of a stream is cut, it gives the lines that are awaited. -/
theorem feedAll_awaited {chunks : List Bytes} (h : f.Fits chunks.flatten) :
    (feedAll chunks f).1 = f.awaited chunks.flatten := by
  induction chunks generalizing f with
  | nil => exact (awaited_of_open (by simpa using h.opened)).symm
  | cons chunk chunks ih =>
      rw [List.flatten_cons] at h ⊢
      obtain ⟨hrest, hlines⟩ := h.feed
      rw [feedAll, ← hlines, ← ih hrest]

end Framer

end RemoteConsole.Wire
