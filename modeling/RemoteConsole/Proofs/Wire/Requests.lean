import RemoteConsole.Proofs.Wire.Oversize
import RemoteConsole.Wire.Request

namespace RemoteConsole.Wire

namespace Request

/-- The line that a request is to be: its type, then its text with a space for every line break. -/
def line (r : Request) : Bytes :=
  r.type :: (Text.Utf8.encode r.payload).map fun b => if b = 10 ∨ b = 13 then 32 else b

def stream (requests : List Request) : Bytes :=
  requests.foldl (fun queued r => queued ++ r.encode) []

variable (r : Request)

theorem type_ne_break : r.type ≠ newline ∧ r.type ≠ carriageReturn := by
  cases r <;> simp [type, newline, carriageReturn]

theorem not_break_of_mem_line {b : UInt8} (h : b ∈ r.line) : b ≠ newline ∧ b ≠ carriageReturn := by
  rcases List.mem_cons.1 h with rfl | h
  · exact r.type_ne_break
  · obtain ⟨c, -, rfl⟩ := List.mem_map.1 h
    by_cases hbreak : c = 10 ∨ c = 13
    · rw [if_pos hbreak]
      decide
    · rw [if_neg hbreak]
      exact not_or.1 hbreak

theorem newline_not_mem_line : newline ∉ r.line :=
  fun h => (r.not_break_of_mem_line h).1 rfl

theorem return_not_mem_line : carriageReturn ∉ r.line :=
  fun h => (r.not_break_of_mem_line h).2 rfl

theorem content?_line : content? r.line = some r.line := by
  have hstrip : stripReturn r.line = r.line := by
    rw [stripReturn, if_neg fun h => r.return_not_mem_line (List.mem_of_getLast? h)]
  exact content?_eq_some.2 ⟨hstrip, List.cons_ne_nil _ _⟩

theorem stream_eq (requests : List Request) :
    stream requests = requests.flatMap fun r => r.line ++ [newline] := by
  rw [stream, ← List.flatMap_eq_foldl]
  rfl

theorem stream_cons (requests : List Request) :
    stream (r :: requests) = r.line ++ newline :: stream requests := by
  rw [stream_eq, stream_eq, List.flatMap_cons, List.append_assoc, List.singleton_append]

theorem count_newline_stream (requests : List Request) :
    (stream requests).count newline = requests.length := by
  induction requests with
  | nil => rfl
  | cons r requests ih =>
      rw [stream_cons, List.count_append, List.count_cons_self, ih,
        List.count_eq_zero_of_not_mem r.newline_not_mem_line, List.length_cons, Nat.zero_add]

theorem return_not_mem_stream (requests : List Request) : carriageReturn ∉ stream requests := by
  intro h
  rw [stream_eq] at h
  obtain ⟨r, -, h⟩ := List.mem_flatMap.1 h
  rcases List.mem_append.1 h with h | h
  · exact r.return_not_mem_line h
  · exact absurd (List.mem_singleton.1 h) (by decide)

theorem endedLines_stream (requests : List Request) :
    endedLines (stream requests) = requests.map line := by
  induction requests with
  | nil => exact endedLines_of_open List.not_mem_nil
  | cons r requests ih =>
      rw [stream_cons, endedLines_line r.newline_not_mem_line, ih, List.map_cons]

theorem openLine_stream (requests : List Request) : openLine (stream requests) = [] := by
  induction requests with
  | nil => exact openLine_of_open List.not_mem_nil
  | cons r requests ih => rw [stream_cons, openLine_line r.newline_not_mem_line, ih]

end Request

open Request (stream)

/-- A framer that all lines fit into gives each line of the stream, and is empty behind the last. -/
theorem feedAll_stream {requests : List Request} {limit : Nat}
    (hfits : ∀ r ∈ requests, r.line.length ≤ limit) {chunks : List Bytes}
    (hchunks : chunks.flatten = stream requests) :
    Framer.feedAll chunks { limit } = (requests.map Request.line, { limit }) := by
  have hlines : (Framer.feedAll chunks { limit }).1 = requests.map Request.line := by
    have hall : (Framer.feedAll chunks { limit }).1 =
        (endedLines chunks.flatten).filterMap content? := by
      apply (delivers_all_iff limit chunks).2
      intro start line hlost
      obtain ⟨hplaced, houtgrows⟩ := mem_outgrown.1 hlost
      have hline : line ∈ endedLines chunks.flatten := by
        rw [← placedLines_lines]
        exact List.mem_map_of_mem hplaced
      rw [hchunks, Request.endedLines_stream] at hline
      obtain ⟨r, hr, rfl⟩ := List.mem_map.1 hline
      exact absurd houtgrows.long (Nat.not_lt.2 (hfits r hr))
    rw [hall, hchunks, Request.endedLines_stream, List.filterMap_map]
    simp [Request.content?_line]
  have hleft : (Framer.feedAll chunks { limit }).2 = { limit } := by
    have hfollows := (Framer.feedAll_eq limit chunks).2
    rw [hchunks] at hfollows
    have hopen := Request.openLine_stream requests
    have hkept : (Framer.feedAll chunks { limit }).2.discarding = false :=
      Bool.eq_false_iff.2 (mt hfollows.discarding.1 (by simp [hopen]))
    have hkeeps := hfollows.keeps
    have hbuffer := (hfollows.buffer hkept).trans hopen
    generalize (Framer.feedAll chunks { limit }).2 = left at hkept hkeeps hbuffer
    cases left
    cases hkept
    cases hkeeps
    cases hbuffer
    rfl
  exact Prod.ext hlines hleft

/-- No text makes two requests of one: what is sent has a newline at the end of each request and
nowhere else, and no carriage return. However it is cut on its way, a framer whose limit exceeds
each text by one reads a line for each request, and nothing is left over. -/
theorem each_request_is_read_as_one_line (requests : List Request) :
    (stream requests).count newline = requests.length ∧
      stream requests = requests.flatMap (fun r => r.line ++ [newline]) ∧
      (∀ r ∈ requests, newline ∉ r.line) ∧
      carriageReturn ∉ stream requests ∧
      ∀ limit, (∀ r ∈ requests, (Text.Utf8.encode r.payload).length + 1 ≤ limit) →
        ∀ chunks : List Bytes, chunks.flatten = stream requests →
          Framer.feedAll chunks { limit } = (requests.map Request.line, { limit }) := by
  refine ⟨Request.count_newline_stream requests, Request.stream_eq requests,
    fun r _ => r.newline_not_mem_line, Request.return_not_mem_stream requests, ?_⟩
  intro limit hlimit chunks hchunks
  refine feedAll_stream (fun r hr => ?_) hchunks
  simpa [Request.line] using hlimit r hr

theorem each_request_is_read_as_one_line_with_a_break_inside :
    let requests : List Request := [.execute "say hi\nkick all\r", .subscribe]
    (∀ r ∈ requests, (Text.Utf8.encode r.payload).length + 1 ≤ 17) ∧
      ([[99, 115, 97, 121, 32, 104], [105, 32, 107, 105, 99, 107, 32, 97, 108, 108, 32, 10, 115],
        [10]] : List Bytes).flatten = stream requests ∧
      Framer.feedAll [[99, 115, 97, 121, 32, 104],
          [105, 32, 107, 105, 99, 107, 32, 97, 108, 108, 32, 10, 115], [10]] { limit := 17 } =
        ([[99, 115, 97, 121, 32, 104, 105, 32, 107, 105, 99, 107, 32, 97, 108, 108, 32], [115]],
          { limit := 17 }) := by
  intro requests
  have hlimit : ∀ r ∈ requests, (Text.Utf8.encode r.payload).length + 1 ≤ 17 := by decide +kernel
  have hstream : ([[99, 115, 97, 121, 32, 104],
      [105, 32, 107, 105, 99, 107, 32, 97, 108, 108, 32, 10, 115], [10]] : List Bytes).flatten =
      stream requests := by decide +kernel
  obtain ⟨-, -, -, -, hread⟩ := each_request_is_read_as_one_line requests
  have hlines : requests.map Request.line =
      [[99, 115, 97, 121, 32, 104, 105, 32, 107, 105, 99, 107, 32, 97, 108, 108, 32], [115]] := by
    decide +kernel
  exact ⟨hlimit, hstream, hlines ▸ hread 17 hlimit _ hstream⟩

end RemoteConsole.Wire
