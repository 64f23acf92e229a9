import RemoteConsole.Match.Table
import RemoteConsole.Wire.Line

namespace RemoteConsole

open Match (Table)
open Wire (Line)

namespace Match.Table

/-- Of the rows the first that has fields names the columns, and those before it are nothing. -/
def ofRows (command : String) (rows : List (List String)) : Table :=
  match rows.dropWhile (·.isEmpty) with
  | [] => { command }
  | header :: rows => { command, header, rows }

theorem ofRows_concat (command : String) (rows : List (List String)) (row : List String) :
    ofRows command (rows ++ [row]) = (ofRows command rows).push row := by
  induction rows with
  | nil => cases row <;> rfl
  | cons first rows ih =>
      cases first with
      | nil => exact ih
      | cons field fields => rfl

end Match.Table

namespace Wire.Line

/-- The answer to the command that a line echoes, from the lines behind it. -/
def answer (echo : Line) (rows : List Line) : Table :=
  .ofRows (echo.field 0) ((rows.filter fun row => row.field 0 ≠ "PONG").map (·.fields))

def continues (line : Line) (coming : Option Table) : Option Table :=
  match line.kind with
  | .echo => some { command := line.field 0 }
  | .response => if line.field 0 = "PONG" then coming else coming.map (·.push line.fields)
  | _ => coming

theorem answer_nil (echo : Line) : echo.answer [] = { command := echo.field 0 } :=
  rfl

theorem answer_concat (echo : Line) (rows : List Line) {row : Line} (h : row.kind = .response) :
    row.continues (some (echo.answer rows)) = some (echo.answer (rows ++ [row])) := by
  rw [continues, h, answer, answer, List.filter_append, List.map_append]
  by_cases hpong : row.field 0 = "PONG"
  · simp [hpong]
  · simp [hpong, Table.ofRows_concat]

end Wire.Line

/-- The answers that have come to an end, in the order of their echoes. -/
def answersIn : List Line → List Table
  | [] => []
  | line :: lines =>
    if line.kind = .echo ∧ ∃ other ∈ lines, other.kind ≠ .response then
      line.answer (lines.takeWhile (·.kind = .response)) :: answersIn lines
    else answersIn lines

/-- The answer that is still coming in: behind its echo there are only rows. -/
def answerComing? : List Line → Option Table
  | [] => none
  | line :: lines =>
    if ∀ row ∈ lines, row.kind = .response then
      if line.kind = .echo then some (line.answer lines) else none
    else answerComing? lines

/-- The answer that a line ends, as any line does that is no row. -/
def answerEnded? (lines : List Line) (line : Line) : Option Table :=
  if line.kind = .response then none else answerComing? lines

section Concat

variable {lines : List Line} {line : Line}

theorem answersIn_of_rows (h : ∀ row ∈ lines, row.kind = .response) : answersIn lines = [] := by
  induction lines with
  | nil => rfl
  | cons row rows ih =>
      obtain ⟨hrow, hrows⟩ := List.forall_mem_cons.1 h
      rw [answersIn, if_neg, ih hrows]
      simp [hrow]

theorem answerComing?_of_rows (h : ∀ row ∈ lines, row.kind = .response) :
    answerComing? lines = none := by
  cases lines with
  | nil => rfl
  | cons row rows =>
      obtain ⟨hrow, hrows⟩ := List.forall_mem_cons.1 h
      rw [answerComing?, if_pos hrows, if_neg]
      simp [hrow]

theorem answerComing?_concat (lines : List Line) (line : Line) :
    answerComing? (lines ++ [line]) =
      line.continues (if line.kind = .response then answerComing? lines else none) := by
  induction lines with
  | nil => cases hkind : line.kind <;> simp [answerComing?, Line.continues, hkind, Line.answer_nil]
  | cons first lines ih =>
      rw [List.cons_append, answerComing?, answerComing?]
      simp only [List.forall_mem_append, List.forall_mem_singleton]
      by_cases hline : line.kind = .response
      · simp only [hline, and_true, if_true] at ih ⊢
        by_cases hrows : ∀ row ∈ lines, row.kind = .response
        · rw [if_pos hrows, if_pos hrows]
          split
          · exact (first.answer_concat lines hline).symm
          · simp [Line.continues, hline]
        · rw [if_neg hrows, if_neg hrows]
          exact ih
      · rw [if_neg (fun h => hline h.2), ih]
        simp only [hline, if_false]

theorem exists_end_concat :
    (∃ other ∈ lines ++ [line], other.kind ≠ .response) ↔
      (∃ other ∈ lines, other.kind ≠ .response) ∨ line.kind ≠ .response := by
  simp only [List.mem_append, List.mem_singleton, or_and_right, exists_or, exists_eq_left]

theorem takeWhile_concat_of_end (h : ∃ other ∈ lines, other.kind ≠ .response) (line : Line) :
    (lines ++ [line]).takeWhile (·.kind = .response) = lines.takeWhile (·.kind = .response) := by
  induction lines with
  | nil => simp at h
  | cons first lines ih =>
      by_cases hfirst : first.kind = .response
      · simp [hfirst, ih (by simpa [hfirst] using h)]
      · simp [hfirst]

theorem takeWhile_concat_of_rows (h : ∀ row ∈ lines, row.kind = .response)
    (hline : line.kind ≠ .response) :
    (lines ++ [line]).takeWhile (·.kind = .response) = lines := by
  rw [List.takeWhile_append_of_pos (by simpa using h)]
  simp [hline]

theorem answersIn_concat (lines : List Line) (line : Line) :
    answersIn (lines ++ [line]) = answersIn lines ++ (answerEnded? lines line).toList := by
  induction lines with
  | nil => simp [answersIn, answerEnded?, answerComing?]
  | cons first lines ih =>
      rw [List.cons_append, answersIn, answersIn, ih, answerEnded?, answerEnded?, answerComing?]
      simp only [exists_end_concat]
      by_cases hrows : ∀ row ∈ lines, row.kind = .response
      · -- behind the first line are only rows, so nothing before the last line ends its answer
        have hnone : ¬ ∃ other ∈ lines, other.kind ≠ .response := by simpa using hrows
        rw [answersIn_of_rows hrows, answerComing?_of_rows hrows]
        by_cases hline : line.kind = .response
        · simp [hnone, hline]
        · simp only [hnone, takeWhile_concat_of_rows hrows hline, false_or, if_neg hline,
            if_pos hrows]
          by_cases hecho : first.kind = .echo
          · simp [hecho, hline]
          · simp [hecho]
      · have hother : ∃ other ∈ lines, other.kind ≠ .response := by simpa using hrows
        simp only [hother, if_neg hrows, takeWhile_concat_of_end hother, true_or, and_true]
        split
        · rfl
        · rfl

end Concat

end RemoteConsole
