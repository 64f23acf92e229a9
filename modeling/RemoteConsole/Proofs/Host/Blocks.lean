import RemoteConsole.Proofs.Host.Applying
import RemoteConsole.Proofs.Host.Calls

namespace RemoteConsole

open Match (Table)
open Wire (Line)

namespace Scene

def hears? (sc : Scene) : Happening → Option Line
  | .line bytes => sc.session.delimiter.bind (Line.parse? · bytes)
  | .aside _ _ => none

/-- The table that the model is given for the line that is heard. -/
def hands? (sc : Scene) (happening : Happening) : Option Table :=
  (sc.hears? happening).bind fun line =>
    if line.kind = .response then none else sc.session.response

/-- All the tables that the model is given, in their order. -/
def handed (sc : Scene) : List (Moment × Happening) → List Table
  | [] => []
  | (t, happening) :: life =>
    (sc.hands? happening).toList ++ (happening.run t sc).handed life

def Loses (sc after : Scene) : Prop :=
  sc.session.delimiter.isSome ∧ after.session.delimiter = none

instance (sc after : Scene) : Decidable (sc.Loses after) :=
  inferInstanceAs (Decidable (_ ∧ _))

/-- What is heard on each connection, of which the first has had `lines` before. -/
def conversations (sc : Scene) (lines : List Line) : List (Moment × Happening) → List (List Line)
  | [] => [lines]
  | (t, happening) :: life =>
    let lines := lines ++ (sc.hears? happening).toList
    let after := happening.run t sc
    if sc.Loses after then lines :: after.conversations [] life else after.conversations lines life

theorem conversations_ne_nil (sc : Scene) (lines : List Line) (life : List (Moment × Happening)) :
    sc.conversations lines life ≠ [] := by
  induction life generalizing sc lines with
  | nil => simp [conversations]
  | cons first life ih =>
      rw [conversations]
      split
      · exact List.cons_ne_nil _ _
      · exact ih _ _

/-- What has been heard on the connection there is in the end. -/
def present (sc : Scene) (lines : List Line) (life : List (Moment × Happening)) : List Line :=
  (sc.conversations lines life).getLast (sc.conversations_ne_nil lines life)

theorem present_cons (sc : Scene) (lines : List Line) (t : Moment) (happening : Happening)
    (life : List (Moment × Happening)) :
    sc.present lines ((t, happening) :: life) =
      (happening.run t sc).present
        (if sc.Loses (happening.run t sc) then [] else lines ++ (sc.hears? happening).toList)
        life := by
  unfold present
  by_cases hlost : sc.Loses (happening.run t sc)
  · simp only [conversations, if_pos hlost, List.getLast_cons (conversations_ne_nil _ _ _)]
  · simp only [conversations, if_neg hlost]

end Scene

/-- These lines have come in over the connection, which has had no banner before the first. -/
structure Session.Heard (lines : List Line) (s : Session) : Prop where
  response : s.response = answerComing? lines
  blank : s.delimiter = none → lines = []

namespace Scene

section Life

variable {t : Moment} {sc after : Scene} {lines : List Line}

theorem heard_of_awaits
    (h : after.session.Awaits sc.session.delimiter (answerComing? lines))
    (hblank : sc.session.delimiter = none → lines = []) :
    after.session.Heard (if sc.Loses after then [] else lines) := by
  rcases h with ⟨hdelimiter, hresponse⟩ | ⟨hdelimiter, hresponse⟩
  · have hstays : ¬ sc.Loses after := by simp [Loses, hdelimiter, Option.isSome_iff_ne_none]
    rw [if_neg hstays]
    exact ⟨hresponse, hdelimiter ▸ hblank⟩
  · have hnothing : (if sc.Loses after then [] else lines) = [] := by
      by_cases hlost : sc.session.delimiter = none
      · rw [hblank hlost, ite_self]
      · exact if_pos ⟨Option.isSome_iff_ne_none.2 hlost, hdelimiter⟩
    rw [hnothing]
    exact ⟨hresponse, fun _ => rfl⟩

theorem heard_run (h : sc.session.Heard lines) (happening : Happening) :
    (happening.run t sc).session.Heard
      (if sc.Loses (happening.run t sc) then [] else lines ++ (sc.hears? happening).toList) := by
  cases happening with
  | aside step haside =>
      have hawaits : (step.run t sc).session.Awaits sc.session.delimiter (answerComing? lines) :=
        h.response ▸ awaits_run haside
      rw [hears?, Option.toList_none, List.append_nil]
      exact heard_of_awaits hawaits h.blank
  | line bytes =>
      rw [hears?, Happening.run]
      cases hdelimiter : sc.session.delimiter with
      | none =>
          have hlines := h.blank hdelimiter
          have hstays : ¬ sc.Loses (sc.processLine t bytes) := by simp [Loses, hdelimiter]
          rw [if_neg hstays, hlines]
          refine ⟨response_processLine hdelimiter ?_ bytes, fun _ => rfl⟩
          rw [h.response, hlines, answerComing?]
      | some d =>
          rw [Option.bind_some]
          cases hline : Line.parse? d bytes with
          | none =>
              have hsame : sc.processLine t bytes = sc := by
                simp only [processLine, hdelimiter, hline]
              rw [hsame, Option.toList_none, List.append_nil]
              exact heard_of_awaits (.inl ⟨rfl, h.response⟩) h.blank
          | some line =>
              have hawaits := awaits_processLine (t := t) hdelimiter hline
              rw [h.response, ← answerComing?_concat, ← hdelimiter] at hawaits
              exact heard_of_awaits hawaits (by simp [hdelimiter])

theorem run_of_hears? {happening : Happening} {line : Line}
    (hline : sc.hears? happening = some line) :
    happening.run t sc =
      (sc.applyAnswer? t (if line.kind = .response then none else sc.session.response)).takeIn t
        line := by
  cases happening with
  | aside step _ => exact absurd hline nofun
  | line bytes =>
      obtain ⟨d, hdelimiter, hparsed⟩ := Option.bind_eq_some_iff.1 hline
      exact processLine_of_parsed hdelimiter hparsed

theorem hands?_eq_answerEnded? (h : sc.session.Heard lines) {happening : Happening} {line : Line}
    (hline : sc.hears? happening = some line) :
    sc.hands? happening = answerEnded? lines line := by
  rw [hands?, hline, Option.bind_some, answerEnded?, h.response]

theorem answersIn_append_hears? (h : sc.session.Heard lines) (happening : Happening) :
    answersIn (lines ++ (sc.hears? happening).toList) =
      answersIn lines ++ (sc.hands? happening).toList := by
  cases hline : sc.hears? happening with
  | none => simp [hands?, hline]
  | some line =>
      rw [hands?_eq_answerEnded? h hline]
      exact answersIn_concat lines line

theorem heard_live (h : sc.session.Heard lines) (life : List (Moment × Happening)) :
    (sc.live life).session.Heard (sc.present lines life) := by
  induction life generalizing sc lines with
  | nil => exact h
  | cons first life ih =>
      rw [present_cons]
      exact ih (heard_run h first.2)

/-- The tables that the model is given are the answers that have come to an end, each on the
connection that it came in over. -/
theorem answersIn_append_handed (h : sc.session.Heard lines) (life : List (Moment × Happening)) :
    answersIn lines ++ sc.handed life = (sc.conversations lines life).flatMap answersIn := by
  induction life generalizing sc lines with
  | nil => simp [handed, conversations]
  | cons first life ih =>
      obtain ⟨t, happening⟩ := first
      have hrun := heard_run (t := t) h happening
      rw [handed, conversations, ← List.append_assoc, ← answersIn_append_hears? h]
      split
      · rename_i hlost
        rw [if_pos hlost] at hrun
        rw [List.flatMap_cons, ← ih hrun]
        rfl
      · rename_i hstays
        rw [if_neg hstays] at hrun
        exact ih hrun

end Life

/-- What ends an answer is the first line behind it that is no row: then the answer is applied, once
and complete, and the line has its own effect in what the answer has made of the model. An answer
that is still coming in when the connection is lost is never applied, and rows that belong to no
answer are nothing. -/
theorem answers_are_applied_once_and_complete (host : Host) (settings : ServerSettings)
    (now : Instant) (life : List (Moment × Happening)) :
    let sc := start host settings now
    let lines := sc.present [] life
    (∀ t dial arrivals out, Lives t (sc.live life) ((sc.live life).turn t dial arrivals out)) ∧
      sc.handed life = (sc.conversations [] life).flatMap answersIn ∧
      (sc.live life).session.response = answerComing? lines ∧
      ∀ t happening line, (sc.live life).hears? happening = some line →
        (sc.live life).hands? happening = answerEnded? lines line ∧
          happening.run t (sc.live life) =
            ((sc.live life).applyAnswer? t (answerEnded? lines line)).takeIn t line ∧
          ∀ table ∈ answerEnded? lines line,
            Applies t table (sc.live life) ((sc.live life).applyAnswer? t table) := by
  intro sc lines
  have hnothing : sc.session.Heard [] := ⟨rfl, fun _ => rfl⟩
  have hheard : (sc.live life).session.Heard lines := heard_live hnothing life
  refine ⟨fun t dial arrivals out => lives_turn dial arrivals out _,
    answersIn_append_handed hnothing life, hheard.response, ?_⟩
  intro t happening line hline
  refine ⟨hands?_eq_answerEnded? hheard hline, ?_, fun table _ => applies_applyAnswer? t _ table⟩
  rw [answerEnded?, ← hheard.response]
  exact run_of_hears? hline

theorem answers_are_applied_once_and_complete_across_two_connections :
    let host : Host := {}
    let settings : ServerSettings := { name := "eu" }
    let tells (text : String) : Moment × Happening := (⟨⟨1⟩, 0⟩, .line text.toUTF8.toList)
    let connects : List (Moment × Happening) :=
      [(⟨⟨1⟩, 0⟩, .aside .startConnect trivial), (⟨⟨1⟩, 0⟩, .aside (.pollConnect .opened) trivial)]
    let life := connects ++ [tells "v005\x02game", tells "aroot", tells "cbinfo", tells "r",
      tells "rName\x02Team", tells "rPONG\x02keepalive", tells "rRef\x02GDI", tells "r",
      tells "lGAME\x02nothing", tells "rlate", tells "cgameinfo", tells "rMap",
      (⟨⟨2⟩, 0⟩, .aside (.lose (.network "reset")) trivial)] ++ connects ++
      [tells "v005\x02game", tells "rIsland", tells "crotation", tells "r0"]
    let sc := start host settings ⟨0⟩
    let lines := sc.present [] life
    let line : Line := { kind := .echo, fields := ["ping", "table_end"], delimiter := 2 }
    let happening : Happening := .line "cping\x02table_end".toUTF8.toList
    (sc.live life).hears? happening = some line ∧
      answerEnded? lines line = some { command := "rotation", header := ["0"] } ∧
      sc.handed life =
        [{ command := "binfo", header := ["Name", "Team"], rows := [["Ref", "GDI"], []] }] ∧
      happening.run ⟨⟨3⟩, 0⟩ (sc.live life) =
        ((sc.live life).applyAnswer? ⟨⟨3⟩, 0⟩ (answerEnded? lines line)).takeIn ⟨⟨3⟩, 0⟩ line ∧
      Applies ⟨⟨3⟩, 0⟩ { command := "rotation", header := ["0"] } (sc.live life)
        ((sc.live life).applyAnswer? ⟨⟨3⟩, 0⟩ (some { command := "rotation", header := ["0"] })) := by
  intro host settings tells connects life sc lines line happening
  obtain ⟨-, hhanded, -, hended⟩ := answers_are_applied_once_and_complete host settings ⟨0⟩ life
  have hline : (sc.live life).hears? happening = some line := by decide +kernel
  have hrotation : answerEnded? lines line = some { command := "rotation", header := ["0"] } := by
    decide +kernel
  obtain ⟨-, hrun, happlies⟩ := hended ⟨⟨3⟩, 0⟩ happening line hline
  refine ⟨hline, hrotation, hhanded.trans ?_, hrun, happlies _ hrotation⟩
  decide +kernel

end Scene

end RemoteConsole
