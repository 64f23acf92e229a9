import RemoteConsole.Proofs.Text.Pieces
import RemoteConsole.Wire.Framer

namespace RemoteConsole

namespace Wire

/-- The lines whose newline has come, without it. -/
def endedLines (stream : Bytes) : List Bytes :=
  (Text.piecesOf newline stream).dropLast

/-- What stands behind the last newline. -/
def openLine (stream : Bytes) : Bytes :=
  (Text.piecesOf newline stream).getLastD []

def openStart (stream : Bytes) : Nat :=
  stream.length - (openLine stream).length

/-- A stream is one open line, or a line that has ended and a further stream. -/
@[elab_as_elim]
theorem stream_induction {motive : Bytes → Prop} (opened : ∀ line, newline ∉ line → motive line)
    (ended : ∀ line rest, newline ∉ line → motive rest → motive (line ++ newline :: rest))
    (stream : Bytes) : motive stream :=
  Text.split_induction newline opened ended stream

section Lines

variable {line rest : Bytes}

theorem endedLines_of_open (h : newline ∉ line) : endedLines line = [] := by
  rw [endedLines, Text.piecesOf_eq_splitOn, List.splitOn_eq_singleton h]
  rfl

theorem openLine_of_open (h : newline ∉ line) : openLine line = line := by
  rw [openLine, Text.piecesOf_eq_splitOn, List.splitOn_eq_singleton h]
  rfl

theorem endedLines_line (h : newline ∉ line) (rest : Bytes) :
    endedLines (line ++ newline :: rest) = line :: endedLines rest := by
  simp only [endedLines, Text.piecesOf_eq_splitOn]
  rw [List.splitOn_append_cons_self_of_not_mem h,
    List.dropLast_cons_of_ne_nil (List.splitOn_ne_nil newline rest)]

theorem openLine_line (h : newline ∉ line) (rest : Bytes) :
    openLine (line ++ newline :: rest) = openLine rest := by
  simp only [openLine, Text.piecesOf_eq_splitOn]
  rw [List.splitOn_append_cons_self_of_not_mem h]
  cases hpieces : rest.splitOn newline with
  | nil => exact absurd hpieces (List.splitOn_ne_nil newline rest)
  | cons line lines => rfl

end Lines

theorem openLine_suffix (stream : Bytes) : openLine stream <:+ stream := by
  induction stream using stream_induction with
  | opened line h => exact ⟨[], openLine_of_open h⟩
  | ended line rest h ih =>
      rw [openLine_line h]
      exact ih.trans ((List.suffix_cons newline rest).trans (List.suffix_append line _))

theorem openStart_add (stream : Bytes) :
    openStart stream + (openLine stream).length = stream.length := by
  have := (openLine_suffix stream).length_le
  unfold openStart
  omega

theorem not_mem_openLine (stream : Bytes) : newline ∉ openLine stream := by
  induction stream using stream_induction with
  | opened line h => rwa [openLine_of_open h]
  | ended line rest h ih => rwa [openLine_line h]

theorem openLine_append (stream more : Bytes) :
    openLine (stream ++ more) = openLine (openLine stream ++ more) := by
  induction stream using stream_induction with
  | opened line h => rw [openLine_of_open h]
  | ended line rest h ih =>
      rw [List.append_assoc, List.cons_append, openLine_line h, ih, openLine_line h]

def placedFrom : (start : Nat) → List Bytes → List (Nat × Bytes)
  | _, [] => []
  | start, line :: lines => (start, line) :: placedFrom (start + line.length + 1) lines

def placedLines (stream : Bytes) : List (Nat × Bytes) :=
  placedFrom 0 (endedLines stream)

theorem placedFrom_lines (start : Nat) (lines : List Bytes) :
    (placedFrom start lines).map Prod.snd = lines := by
  induction lines generalizing start with
  | nil => rfl
  | cons line lines ih => rw [placedFrom, List.map_cons, ih]

theorem placedLines_lines (stream : Bytes) :
    (placedLines stream).map Prod.snd = endedLines stream :=
  placedFrom_lines 0 _

theorem placedFrom_within {stream line : Bytes} {first start : Nat}
    (h : (start, line) ∈ placedFrom first (endedLines stream)) :
    first ≤ start ∧ start + line.length < first + stream.length := by
  induction stream using stream_induction generalizing first with
  | opened l hl => simp [endedLines_of_open hl, placedFrom] at h
  | ended l rest hl ih =>
      rw [endedLines_line hl, placedFrom] at h
      simp only [List.length_append, List.length_cons]
      rcases List.mem_cons.1 h with heq | h
      · obtain ⟨rfl, rfl⟩ := Prod.mk.inj heq
        omega
      · have := ih h
        omega

theorem placedFrom_endedLines_append (first : Nat) (stream more : Bytes) :
    placedFrom first (endedLines (stream ++ more)) = placedFrom first (endedLines stream) ++
      placedFrom (first + openStart stream) (endedLines (openLine stream ++ more)) := by
  induction stream using stream_induction generalizing first with
  | opened line h =>
      -- nothing has ended yet, so the open line starts where the stream does
      have hstart : openStart line = 0 := by rw [openStart, openLine_of_open h, Nat.sub_self]
      rw [endedLines_of_open h, openLine_of_open h, hstart]
      rfl
  | ended line rest h ih =>
      have hlong := openStart_add (line ++ newline :: rest)
      have hrest := openStart_add rest
      rw [openLine_line h, List.length_append, List.length_cons] at hlong
      have hstart : first + openStart (line ++ newline :: rest) =
          first + line.length + 1 + openStart rest := by omega
      rw [List.append_assoc, List.cons_append, endedLines_line h, placedFrom, ih, endedLines_line h,
        openLine_line h, hstart, placedFrom, List.cons_append]

theorem placedLines_append (stream more : Bytes) :
    placedLines (stream ++ more) = placedLines stream ++
      placedFrom (openStart stream) (endedLines (openLine stream ++ more)) := by
  rw [placedLines, placedFrom_endedLines_append, Nat.zero_add, placedLines]

end Wire

end RemoteConsole
