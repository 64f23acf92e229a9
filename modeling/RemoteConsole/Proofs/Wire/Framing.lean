import Mathlib.Data.List.Infix
import Mathlib.Data.List.TakeWhile
import RemoteConsole.Proofs.Wire.Lines

namespace RemoteConsole.Wire

/-- What of a line is delivered, if anything. -/
def content? (line : Bytes) : Option Bytes :=
  if (stripReturn line).isEmpty then none else some (stripReturn line)

/-- The line has more than `limit` bytes in front of a cut of the stream, and its newline behind
it. -/
def Outgrows (limit : Nat) (chunks : List Bytes) (start : Nat) (line : Bytes) : Prop :=
  ∃ before, before <+: chunks ∧ start + limit < before.flatten.length ∧
    before.flatten.length ≤ start + line.length

instance (limit : Nat) (chunks : List Bytes) (start : Nat) (line : Bytes) :
    Decidable (Outgrows limit chunks start line) :=
  decidable_of_iff (∃ before ∈ chunks.inits, start + limit < before.flatten.length ∧
    before.flatten.length ≤ start + line.length) (by simp [Outgrows])

theorem Outgrows.long {limit start : Nat} {chunks : List Bytes} {line : Bytes}
    (h : Outgrows limit chunks start line) : limit < line.length := by
  obtain ⟨before, -, hlate, hsoon⟩ := h
  omega

/-- The lines that do not outgrow the limit while they wait for their newline. -/
def spared (limit : Nat) (chunks : List Bytes) : List (Nat × Bytes) :=
  (placedLines chunks.flatten).filter fun p => ¬ Outgrows limit chunks p.1 p.2

def outgrown (limit : Nat) (chunks : List Bytes) : List (Nat × Bytes) :=
  (placedLines chunks.flatten).filter fun p => Outgrows limit chunks p.1 p.2

section Spared

theorem spared_sublist (limit : Nat) (chunks : List Bytes) :
    ((spared limit chunks).map Prod.snd).Sublist (endedLines chunks.flatten) := by
  rw [← placedLines_lines]
  exact List.filter_sublist.map Prod.snd

theorem spared_filter_short (limit : Nat) (chunks : List Bytes) :
    ((spared limit chunks).map Prod.snd).filter (·.length ≤ limit) =
      (endedLines chunks.flatten).filter (·.length ≤ limit) := by
  rw [← placedLines_lines, List.filter_map, List.filter_map, spared, List.filter_filter]
  congr 1
  apply List.filter_congr
  rintro ⟨start, line⟩ -
  by_cases hshort : line.length ≤ limit
  · have hspared : ¬ Outgrows limit chunks start line := fun h => Nat.not_lt.2 hshort h.long
    simp [hshort, hspared]
  · simp [hshort]

theorem spared_append_outgrown_perm (limit : Nat) (chunks : List Bytes) :
    List.Perm ((spared limit chunks).map Prod.snd ++ (outgrown limit chunks).map Prod.snd)
      (endedLines chunks.flatten) := by
  rw [← placedLines_lines, ← List.map_append]
  apply List.Perm.map
  apply List.perm_append_comm.trans
  simpa [spared, outgrown] using
    List.filter_append_perm (fun p => decide (Outgrows limit chunks p.1 p.2))
      (placedLines chunks.flatten)

variable {limit start : Nat} {chunks : List Bytes} {chunk line : Bytes}

theorem mem_spared :
    (start, line) ∈ spared limit chunks ↔
      (start, line) ∈ placedLines chunks.flatten ∧ ¬ Outgrows limit chunks start line := by
  simp [spared]

theorem mem_outgrown :
    (start, line) ∈ outgrown limit chunks ↔
      (start, line) ∈ placedLines chunks.flatten ∧ Outgrows limit chunks start line := by
  simp [outgrown]

theorem outgrows_concat_of_ended (h : start + line.length < chunks.flatten.length) :
    Outgrows limit (chunks ++ [chunk]) start line ↔ Outgrows limit chunks start line := by
  constructor
  · rintro ⟨before, hbefore, hlate, hsoon⟩
    rcases List.prefix_concat_iff.1 hbefore with rfl | hbefore
    · simp only [List.flatten_concat, List.length_append] at hsoon
      omega
    · exact ⟨before, hbefore, hlate, hsoon⟩
  · rintro ⟨before, hbefore, hlate, hsoon⟩
    exact ⟨before, hbefore.trans (List.prefix_append chunks [chunk]), hlate, hsoon⟩

theorem outgrows_concat_of_ends (hbegun : chunks.flatten.length ≤ start + line.length)
    (hends : start + line.length < (chunks ++ [chunk]).flatten.length) :
    Outgrows limit (chunks ++ [chunk]) start line ↔ start + limit < chunks.flatten.length := by
  constructor
  · rintro ⟨before, hbefore, hlate, hsoon⟩
    rcases List.prefix_concat_iff.1 hbefore with rfl | hbefore
    · omega
    · have := hbefore.flatten.length_le
      omega
  · intro hlate
    exact ⟨chunks, List.prefix_append chunks [chunk], hlate, hbegun⟩

theorem spared_concat (limit : Nat) (chunks : List Bytes) (chunk : Bytes) :
    spared limit (chunks ++ [chunk]) = spared limit chunks ++
      (placedFrom (openStart chunks.flatten) (endedLines (openLine chunks.flatten ++ chunk))).filter
        fun p => ¬ Outgrows limit (chunks ++ [chunk]) p.1 p.2 := by
  simp only [spared, List.flatten_concat, placedLines_append, List.filter_append]
  congr 1
  apply List.filter_congr
  rintro ⟨start, line⟩ hplaced
  have hended := (placedFrom_within hplaced).2
  rw [Nat.zero_add] at hended
  simp only [outgrows_concat_of_ended hended]

theorem spared_concat_of_open (limit : Nat) (chunks : List Bytes) (h : newline ∉ chunk) :
    spared limit (chunks ++ [chunk]) = spared limit chunks := by
  have hopen : newline ∉ openLine chunks.flatten ++ chunk := by
    simp [h, not_mem_openLine]
  rw [spared_concat, endedLines_of_open hopen, placedFrom, List.filter_nil, List.append_nil]

theorem spared_concat_of_line (limit : Nat) (chunks : List Bytes) {head rest : Bytes}
    (h : newline ∉ head) :
    (spared limit (chunks ++ [head ++ newline :: rest])).map Prod.snd =
      (spared limit chunks).map Prod.snd ++
        ((if limit < (openLine chunks.flatten).length then []
          else [openLine chunks.flatten ++ head]) ++ endedLines rest) := by
  have hstart := openStart_add chunks.flatten
  have hopen : newline ∉ openLine chunks.flatten ++ head := by simp [h, not_mem_openLine]
  have hlength : (chunks ++ [head ++ newline :: rest]).flatten.length =
      chunks.flatten.length + (head.length + (rest.length + 1)) := by
    simp only [List.flatten_concat, List.length_append, List.length_cons]
  have hfirst : Outgrows limit (chunks ++ [head ++ newline :: rest]) (openStart chunks.flatten)
      (openLine chunks.flatten ++ head) ↔ limit < (openLine chunks.flatten).length := by
    rw [outgrows_concat_of_ends (by simp only [List.length_append]; omega)
      (by simp only [hlength, List.length_append]; omega)]
    omega
  have hothers : ∀ p ∈ placedFrom
      (openStart chunks.flatten + (openLine chunks.flatten ++ head).length + 1) (endedLines rest),
      ¬ Outgrows limit (chunks ++ [head ++ newline :: rest]) p.1 p.2 := by
    rintro ⟨start, line⟩ hplaced
    have hwithin := placedFrom_within hplaced
    simp only [List.length_append] at hwithin
    dsimp only
    rw [outgrows_concat_of_ends (by omega) (by omega)]
    omega
  rw [spared_concat, ← List.append_assoc, endedLines_line hopen, placedFrom, List.map_append,
    List.filter_cons, List.filter_eq_self.2 (by simpa using hothers)]
  simp only [hfirst, decide_not, Bool.not_eq_true', decide_eq_false_iff_not]
  by_cases hlate : limit < (openLine chunks.flatten).length
  · simp only [hlate, not_true, if_false, if_true, placedFrom_lines, List.nil_append]
  · simp only [hlate, not_false_eq_true, if_false, if_true, List.map_cons, placedFrom_lines,
      List.singleton_append]

end Spared

namespace Framer

def settle (f : Framer) : Framer :=
  if f.limit < f.buffer.length then { f with buffer := [], discarding := true } else f

def behind (f : Framer) (rest : Bytes) : Framer :=
  { f with buffer := rest, discarding := false }

theorem next_of_open {f : Framer} (h : newline ∉ f.buffer) : f.next = (none, f.settle) := by
  have hnone : f.buffer.dropWhile (· != newline) = [] := by
    rw [List.dropWhile_eq_nil_iff]
    intro b hb
    exact bne_iff_ne.2 (ne_of_mem_of_not_mem hb h)
  rw [next, settle]
  split
  · split <;> rfl
  · rename_i heq
    rw [hnone] at heq
    cases heq

theorem next_of_line {f : Framer} {line rest : Bytes} (hbuffer : f.buffer = line ++ newline :: rest)
    (h : newline ∉ line) : f.next =
      if f.discarding || (stripReturn line).isEmpty then (f.behind rest).next
      else (some (stripReturn line), f.behind rest) := by
  have hline : ∀ b ∈ line, (b != newline) = true := by
    intro b hb
    exact bne_iff_ne.2 (ne_of_mem_of_not_mem hb h)
  have htake : f.buffer.takeWhile (· != newline) = line := by
    rw [hbuffer, List.takeWhile_append_of_pos hline]
    simp
  have hdrop : f.buffer.dropWhile (· != newline) = newline :: rest := by
    rw [hbuffer, List.dropWhile_append_of_pos hline]
    simp
  rw [next, htake]
  split
  · rename_i heq
    rw [hdrop] at heq
    cases heq
  · rename_i heq
    rw [hdrop] at heq
    cases heq
    rfl

theorem drainOnto_eq (lines : List Bytes) (f : Framer) :
    f.drainOnto lines = (lines.reverse ++ f.drain.1, f.drain.2) := by
  induction hlength : f.buffer.length using Nat.strongRecOn generalizing f lines with
  | _ n ih =>
      rw [drain, drainOnto, drainOnto]
      split
      · simp
      · rename_i line f' hnext
        have hshort := next_some_length hnext
        rw [hlength] at hshort
        rw [ih _ hshort (line :: lines) f' rfl, ih _ hshort [line] f' rfl]
        simp

theorem drain_of_next_none {f after : Framer} (h : f.next = (none, after)) :
    f.drain = ([], after) := by
  rw [drain, drainOnto]
  split <;> rename_i heq <;> rw [h] at heq <;> cases heq
  rfl

theorem drain_of_next_some {f after : Framer} {line : Bytes} (h : f.next = (some line, after)) :
    f.drain = (line :: after.drain.1, after.drain.2) := by
  rw [drain, drainOnto]
  split <;> rename_i heq <;> rw [h] at heq <;> cases heq
  exact drainOnto_eq [line] after

theorem drain_congr {f g : Framer} (h : f.next = g.next) : f.drain = g.drain := by
  rcases hnext : g.next with ⟨_ | line, after⟩
  · rw [drain_of_next_none (h.trans hnext), drain_of_next_none hnext]
  · rw [drain_of_next_some (h.trans hnext), drain_of_next_some hnext]

theorem drain_of_open {f : Framer} (h : newline ∉ f.buffer) : f.drain = ([], f.settle) :=
  drain_of_next_none (next_of_open h)

theorem drain_of_line {f : Framer} {line rest : Bytes}
    (hbuffer : f.buffer = line ++ newline :: rest) (h : newline ∉ line) :
    f.drain = ((if f.discarding then [] else (content? line).toList) ++ (f.behind rest).drain.1,
      (f.behind rest).drain.2) := by
  have hnext := next_of_line hbuffer h
  by_cases hskip : (f.discarding || (stripReturn line).isEmpty) = true
  · rw [if_pos hskip] at hnext
    have hnone : (if f.discarding then [] else (content? line).toList) = [] := by
      rcases Bool.or_eq_true_iff.1 hskip with hdiscarding | hempty
      · rw [if_pos hdiscarding]
      · simp [content?, hempty]
    rw [drain_congr hnext, hnone, List.nil_append]
  · rw [if_neg hskip] at hnext
    have hkept : (if f.discarding then [] else (content? line).toList) = [stripReturn line] := by
      obtain ⟨hdiscarding, hempty⟩ := not_or.1 (mt Bool.or_eq_true_iff.2 hskip)
      simp [content?, hdiscarding, hempty]
    rw [hkept, drain_of_next_some hnext, List.singleton_append]

theorem drain_eq {f : Framer} (h : f.discarding = false) :
    f.drain =
      ((endedLines f.buffer).filterMap content?, (f.behind (openLine f.buffer)).settle) := by
  induction hbuffer : f.buffer using stream_induction generalizing f with
  | opened line hline =>
      subst hbuffer
      rw [drain_of_open hline, endedLines_of_open hline, openLine_of_open hline]
      obtain ⟨limit, buffer, discarding⟩ := f
      cases h
      rfl
  | ended line rest hline ih =>
      -- the newline behind the line has ended any discarding, so the rest is such a buffer again
      rw [drain_of_line hbuffer hline, ih rfl rfl, endedLines_line hline, openLine_line hline, h]
      cases hcontent : content? line <;> simp [hcontent, behind]

def feed (f : Framer) (chunk : Bytes) : List Bytes × Framer :=
  (f.push chunk).drain

def feedAll : List Bytes → Framer → List Bytes × Framer
  | [], f => ([], f)
  | chunk :: chunks, f =>
    let (lines, f) := f.feed chunk
    let (further, f) := feedAll chunks f
    (lines ++ further, f)

theorem feedAll_concat (chunks : List Bytes) (chunk : Bytes) (f : Framer) :
    feedAll (chunks ++ [chunk]) f =
      ((feedAll chunks f).1 ++ ((feedAll chunks f).2.feed chunk).1,
        ((feedAll chunks f).2.feed chunk).2) := by
  induction chunks generalizing f with
  | nil => simp [feedAll]
  | cons first chunks ih => simp [feedAll, ih]

/-- Where the framer stands in a stream of which it has all bytes up to here. -/
structure Follows (f : Framer) (limit : Nat) (stream : Bytes) : Prop where
  keeps : f.limit = limit
  opened : newline ∉ f.buffer
  short : f.buffer.length ≤ limit
  discarding : f.discarding = true ↔ limit < (openLine stream).length
  buffer : f.discarding = false → f.buffer = openLine stream

theorem Follows.new (limit : Nat) : Follows { limit } limit [] where
  keeps := rfl
  opened := List.not_mem_nil
  short := Nat.zero_le limit
  discarding := by simp [openLine_of_open]
  buffer _ := (openLine_of_open List.not_mem_nil).symm

theorem Follows.settle {f : Framer} {limit : Nat} {stream : Bytes} (hlimit : f.limit = limit)
    (hopened : newline ∉ f.buffer) (hlost : f.discarding = true → limit < (openLine stream).length)
    (hbuffer : f.discarding = false → f.buffer = openLine stream) :
    Follows f.settle limit stream := by
  subst hlimit
  rw [Framer.settle]
  by_cases hlong : f.limit < f.buffer.length
  · rw [if_pos hlong]
    refine ⟨rfl, List.not_mem_nil, Nat.zero_le _, ?_, nofun⟩
    cases hdiscarding : f.discarding with
    | true => simpa using hlost hdiscarding
    | false => simpa [← hbuffer hdiscarding] using hlong
  · rw [if_neg hlong]
    refine ⟨rfl, hopened, Nat.le_of_not_lt hlong, ⟨hlost, fun hlate => ?_⟩, hbuffer⟩
    by_contra hkept
    rw [← hbuffer (Bool.eq_false_iff.2 hkept)] at hlate
    exact hlong hlate

section Feed

variable {f : Framer} {limit : Nat} {stream : Bytes} (h : Follows f limit stream)
include h

theorem feed_of_open {chunk : Bytes} (hchunk : newline ∉ chunk) :
    ∃ after, f.feed chunk = ([], after) ∧ Follows after limit (stream ++ chunk) := by
  have hopened : newline ∉ (f.push chunk).buffer := by
    simp [push, h.opened, hchunk]
  have hopenLine : openLine (stream ++ chunk) = openLine stream ++ chunk := by
    rw [openLine_append, openLine_of_open]
    simp [not_mem_openLine, hchunk]
  refine ⟨(f.push chunk).settle, drain_of_open hopened, Follows.settle h.keeps hopened ?_ ?_⟩
  · intro hlost
    have := h.discarding.1 hlost
    rw [hopenLine, List.length_append]
    omega
  · intro hkept
    rw [hopenLine, ← h.buffer hkept]
    rfl

theorem feed_of_line {head rest : Bytes} (hhead : newline ∉ head) :
    ∃ after, f.feed (head ++ newline :: rest) =
        (((if limit < (openLine stream).length then [] else [openLine stream ++ head]) ++
          endedLines rest).filterMap content?, after) ∧
      Follows after limit (stream ++ (head ++ newline :: rest)) := by
  have hbuffer : (f.push (head ++ newline :: rest)).buffer =
      (f.buffer ++ head) ++ newline :: rest := by
    simp [push]
  have hfirst : newline ∉ f.buffer ++ head := by simp [h.opened, hhead]
  have hopened : newline ∉ openLine stream ++ head := by simp [not_mem_openLine, hhead]
  have hopenLine : openLine (stream ++ (head ++ newline :: rest)) = openLine rest := by
    rw [openLine_append, ← List.append_assoc, openLine_line hopened]
  have hlines : (if f.discarding then [] else (content? (f.buffer ++ head)).toList) =
      (if limit < (openLine stream).length then [] else [openLine stream ++ head]).filterMap
        content? := by
    cases hdiscarding : f.discarding with
    | true =>
        rw [if_pos (h.discarding.1 hdiscarding)]
        rfl
    | false =>
        rw [if_neg (mt h.discarding.2 (by simp [hdiscarding])), ← h.buffer hdiscarding]
        cases hcontent : content? (f.buffer ++ head) <;> simp [hcontent]
  refine ⟨((f.push (head ++ newline :: rest)).behind (openLine rest)).settle, ?_, ?_⟩
  · rw [feed, drain_of_line hbuffer hfirst, drain_eq rfl, List.filterMap_append, ← hlines]
    rfl
  · have hkeeps : ((f.push (head ++ newline :: rest)).behind (openLine rest)).limit = limit :=
      h.keeps
    apply Follows.settle hkeeps (not_mem_openLine rest)
    · exact nofun
    · intro _
      exact hopenLine.symm

end Feed

/-- Exactly the lines are delivered that do not outgrow the limit while they wait for their
newline. -/
theorem feedAll_eq (limit : Nat) (chunks : List Bytes) :
    (feedAll chunks { limit }).1 = ((spared limit chunks).map Prod.snd).filterMap content? ∧
      Follows (feedAll chunks { limit }).2 limit chunks.flatten := by
  -- from the last chunk backwards: a chunk decides about the line that was open before it came
  induction chunks using List.reverseRecOn with
  | nil => exact ⟨rfl, .new limit⟩
  | append_singleton chunks chunk ih =>
      obtain ⟨hlines, hfollows⟩ := ih
      rw [feedAll_concat, List.flatten_concat]
      by_cases hmem : newline ∈ chunk
      · obtain ⟨head, rest, rfl, hhead⟩ := List.eq_append_cons_of_mem hmem
        obtain ⟨after, hfeed, hafter⟩ := feed_of_line hfollows hhead
        rw [hfeed, hlines, spared_concat_of_line limit chunks hhead]
        exact ⟨List.filterMap_append.symm, hafter⟩
      · obtain ⟨after, hfeed, hafter⟩ := feed_of_open hfollows hmem
        rw [hfeed, hlines, spared_concat_of_open limit chunks hmem, List.append_nil]
        exact ⟨rfl, hafter⟩

end Framer

end RemoteConsole.Wire
