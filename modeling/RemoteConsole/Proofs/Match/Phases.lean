import RemoteConsole.Proofs.Match.Backdrop
import RemoteConsole.Proofs.Match.Ids

namespace RemoteConsole.Match

open GameLog (Entry)

def Table.inProgress? (t : Table) : Option Bool :=
  if t.verb = "gameinfo" then
    t.rows.head?.bind fun row =>
      (Model.info? { info := .ofPairs (t.header.zip row) } "bIsMatchInProgress").map truth
  else none

namespace Phase

/-- A match that is on is neither still to come nor over. -/
def Consistent (p : Phase) : Prop :=
  p.inProgress → ¬ p.pending ∧ ¬ p.ended

instance : DecidablePred Consistent :=
  fun p => inferInstanceAs (Decidable (p.inProgress → ¬ p.pending ∧ ¬ p.ended))

def afterLine (p : Phase) : Entry → Phase
  | .matchStart _ => { inProgress := true }
  | .matchEnd _ => { p with inProgress := false, ended := true }
  | .mapChanging .. => { p with travelling := true, inProgress := false }
  | .mapLoaded _ => { p with travelling := false, pending := true }
  | .mapStart _ => { p with travelling := false, pending := true, ended := false }
  | _ => p

def afterTable (p : Phase) (t : Table) : Phase :=
  t.inProgress?.elim p fun on => { p with inProgress := on }

end Phase

namespace Model

variable (now : Instant) (m : Model)

theorem phase_apply (e : Entry) : (m.apply now e).1.phase = m.phase.afterLine e := by
  cases e with
  | matchStart | matchEnd | mapChanging | mapLoaded | mapStart => rfl
  | _ => exact (m.playsOn_apply now id).phase

theorem applyInfo_cons {t : Table} {row : List String} {rows : List (List String)}
    (h : t.rows = row :: rows) :
    ∃ (read : Model) (tell : Model → String → Model),
      m.applyInfo now t = told (read.info? "bIsMatchInProgress") tell read ∧
        read.phase = m.phase ∧ read.info = .ofPairs (t.header.zip row) ∧
        ∀ v, (tell read v).phase = { read.phase with inProgress := truth v } := by
  rw [applyInfo, h]
  refine ⟨_, _, rfl, ?_, ?_, fun v => rfl⟩
  · rw [told_keeps Model.phase]
    intro m v
    split <;> rfl
  · rw [told_keeps Model.info]
    intro m v
    split <;> rfl

theorem phase_applyInfo {t : Table} (h : t.verb = "gameinfo") :
    (m.applyInfo now t).phase = m.phase.afterTable t := by
  rw [Phase.afterTable, Table.inProgress?, if_pos h]
  cases hrows : t.rows with
  | nil => rw [applyInfo, hrows]; rfl
  | cons row rows =>
      obtain ⟨read, tell, hafter, hphase, hinfo, htell⟩ := m.applyInfo_cons now hrows
      have hcell : read.info? "bIsMatchInProgress" =
          info? { info := .ofPairs (t.header.zip row) } "bIsMatchInProgress" := by
        rw [info?, hinfo, info?]
      rw [hafter, hcell, List.head?_cons, Option.bind_some, ← hphase]
      cases info? { info := .ofPairs (t.header.zip row) } "bIsMatchInProgress" with
      | none => rfl
      | some v => exact htell v

theorem phase_applyTable (t : Table) : (m.applyTable now t).1.phase = m.phase.afterTable t := by
  by_cases h : t.verb = "gameinfo"
  · simp only [applyTable, h]
    exact m.phase_applyInfo now h
  · rw [Phase.afterTable, Table.inProgress?, if_neg h, applyTable]
    split
    · exact (m.playsOn_applyRoster now t).phase
    · rfl
    · contradiction
    · rw [applyRotation]
      dsimp only
      split <;> rfl
    · rfl

end Model

namespace Step

/-- The phase after a step. Nothing else of the model matters to it. -/
def phaseAfter (p : Phase) : Step → Phase
  | line _ e => p.afterLine e
  | table _ t => p.afterTable t
  | roster .. => p
  | wipe => {}
  | setTravelling travelling => { p with travelling }

theorem phase_run (m : Model) (step : Step) : (step.run m).phase = step.phaseAfter m.phase := by
  cases step with
  | line now e => rw [run, phaseAfter, m.phase_apply now e]
  | table now t => rw [run, phaseAfter, m.phase_applyTable now t]
  | roster now t => rw [run, phaseAfter, (m.playsOn_applyRoster now t).phase]
  | wipe => rfl
  | setTravelling travelling => rfl

/-- A map comes up in the middle of a match, or an answer says that a match is on while it is still
to come or over. -/
def Contradicts (p : Phase) : Step → Prop
  | line _ (.mapLoaded _) | line _ (.mapStart _) => p.inProgress
  | table _ t => t.inProgress? = some true ∧ (p.pending ∨ p.ended)
  | _ => False

/-- The match starts or ends, the map is left, or all is forgotten. -/
def Settles : Step → Prop
  | line _ (.matchStart _) | line _ (.matchEnd _) | line _ (.mapChanging ..) | wipe => True
  | _ => False

theorem consistent_of_settles {step : Step} (h : step.Settles) (p : Phase) :
    (step.phaseAfter p).Consistent := by
  cases step with
  | line now e =>
      cases e with
      | matchStart map => exact fun _ => ⟨nofun, nofun⟩
      | matchEnd | mapChanging => exact nofun
      | _ => exact absurd h id
  | wipe => exact nofun
  | table | roster | setTravelling => exact absurd h id

end Step

namespace Phase

variable {p : Phase}

theorem Consistent.afterTable_iff (h : p.Consistent) (t : Table) :
    (p.afterTable t).Consistent ↔ ¬ (t.inProgress? = some true ∧ (p.pending ∨ p.ended)) := by
  unfold afterTable
  cases t.inProgress? with
  | none => exact iff_of_true h nofun
  | some on =>
      cases on with
      | false => exact iff_of_true nofun nofun
      | true => simp [Consistent]

theorem Consistent.step_iff (h : p.Consistent) (step : Step) :
    (step.phaseAfter p).Consistent ↔ ¬ step.Contradicts p := by
  cases step with
  | line now e =>
      cases e with
      | matchStart | matchEnd | mapChanging =>
          refine iff_of_true (Step.consistent_of_settles ?_ p) id
          exact trivial
      | mapLoaded | mapStart => simp [Step.phaseAfter, afterLine, Step.Contradicts, Consistent]
      | _ => exact iff_of_true h id
  | table now t => exact h.afterTable_iff t
  | roster | setTravelling => exact iff_of_true h id
  | wipe => exact iff_of_true nofun id

end Phase

/-- From a new model on, a match that is on is neither still to come nor over all the time, exactly
if no map comes up in the middle of a match and no answer says that one is on which is still to
come or over. Whatever the phase, it is consistent once a match starts or ends, the map is left, or
all is forgotten. -/
theorem phase_is_consistent_iff_no_step_contradicts_it (steps : List Step) :
    ((∀ before, before <+: steps → (Step.runAll {} before).phase.Consistent) ↔
      ∀ before step, before ++ [step] <+: steps →
        ¬ step.Contradicts (Step.runAll {} before).phase) ∧
      ∀ (m : Model) (step : Step), step.Settles → (step.run m).phase.Consistent := by
  have hnew : ({} : Model).phase.Consistent := by decide
  refine ⟨?_, fun m step h => ?_⟩
  · refine holds_throughout_iff (fun m : Model => m.phase.Consistent)
      (fun m (step : Step) => step.Contradicts m.phase) hnew fun _ step _ h => ?_
    rw [Step.phase_run]
    exact h.step_iff step
  · rw [Step.phase_run]
    exact Step.consistent_of_settles h m.phase

/-- A map comes up, and then the server says that a match is on. -/
theorem a_match_can_be_on_and_still_to_come :
    ¬ (Step.runAll {} [
        .line ⟨0⟩ (.mapStart "CNC-Field"),
        .table ⟨0⟩ {
          command := "gameinfo", header := ["Map", "bIsMatchInProgress"]
          rows := [["CNC-Field", "True"]] }]).phase.Consistent := by
  decide +kernel

end RemoteConsole.Match
