import RemoteConsole.Proofs.Match.Lookups

namespace RemoteConsole.Match

open GameLog (Entry PlayerTag)

/-- A player whom a line names is on the team it names them with, if it does. -/
def Player.taggedAs (p : Player) (tag : PlayerTag) : Player :=
  if tag.team = .none then p else { p with team := tag.team }

namespace Player

variable (p : Player) (tag : PlayerTag)

@[simp] theorem taggedAs_id : (p.taggedAs tag).id = p.id := by
  unfold taggedAs
  split <;> rfl

theorem taggedAs_on (team : Team) : { p.taggedAs tag with team } = { p with team } := by
  unfold taggedAs
  split <;> rfl

theorem taggedAs_team_eq_iff :
    (p.taggedAs tag).team = p.team ↔ tag.team = .none ∨ tag.team = p.team := by
  unfold taggedAs
  by_cases htag : tag.team = .none
  · simp [htag]
  · simp [htag]

end Player

namespace Model

variable (now : Instant) {m : Model} {tag : PlayerTag} {p : Player}
  (hp : m.player? tag.id = some p)

include hp

theorem player?_touch_of_known : (m.touch now tag).player? tag.id = some (p.taggedAs tag) := by
  rw [touch, hp, Player.taggedAs, if_pos Option.isSome_some]
  split
  · exact hp
  · rw [player?_edit_of_keeps, if_pos rfl, hp]
    · rfl
    · exact fun _ => rfl

theorem snapshot_touch_of_known : (m.touch now tag).snapshot now tag = p.taggedAs tag := by
  rw [snapshot, player?_touch_of_known now hp]
  rfl

theorem acting_of_known {f : Player → Player} (hf : ∀ p, (f p).id = p.id)
    (event : Player → Event) :
    (m.acting now tag f event).1.player? tag.id = some (f (p.taggedAs tag)) ∧
      (m.acting now tag f event).2 = [event (f (p.taggedAs tag))] := by
  have hafter : ((m.touch now tag).edit tag.id f).player? tag.id = some (f (p.taggedAs tag)) := by
    rw [player?_edit_of_keeps _ hf, if_pos rfl, player?_touch_of_known now hp]
    rfl
  refine ⟨hafter, ?_⟩
  rw [acting, snapshot, hafter]
  rfl

theorem apply_teamJoin_of_known (newTeam : Team) (oldTeam : Option Team) :
    (m.apply now (.teamJoin tag newTeam oldTeam)).1.player? tag.id =
        some { p with team := newTeam } ∧
      (m.apply now (.teamJoin tag newTeam oldTeam)).2 =
        [.teamChange { p with team := newTeam } (oldTeam.getD (p.taggedAs tag).team)] := by
  rw [apply, snapshot_touch_of_known now hp, ← p.taggedAs_on tag newTeam]
  refine acting_of_known now hp ?_ _
  exact fun _ => rfl

end Model

/-- If a line does not say which team a player left, the event tells the one they came from exactly
if the line names them with that team or with none. They are on the new team afterwards. -/
theorem a_team_change_tells_whence_iff_the_tag_agrees {m : Model} {tag : PlayerTag} {p : Player}
    (hp : m.player? tag.id = some p) (now : Instant) (newTeam : Team) :
    ((m.apply now (.teamJoin tag newTeam none)).2 =
        [.teamChange { p with team := newTeam } p.team] ↔
      tag.team = .none ∨ tag.team = p.team) ∧
    (m.apply now (.teamJoin tag newTeam none)).1.player? tag.id =
      some { p with team := newTeam } := by
  obtain ⟨hafter, hevents⟩ := Model.apply_teamJoin_of_known now hp newTeam none
  refine ⟨?_, hafter⟩
  rw [hevents, ← p.taggedAs_team_eq_iff tag]
  simp

theorem a_team_change_tells_whence_iff_the_tag_agrees_without_a_team :
    let alice : Player := { id := ⟨3⟩, name := "Alice", team := .sideA, joinedAt := ⟨0⟩ }
    let m : Model := { players := [alice] }
    let tag : PlayerTag := ⟨.none, ⟨3⟩, "Alice", false⟩
    m.player? tag.id = some alice ∧
      (m.apply ⟨1⟩ (.teamJoin tag .sideB none)).2 =
        [.teamChange { alice with team := .sideB } .sideA] ∧
      (m.apply ⟨1⟩ (.teamJoin tag .sideB none)).1.player? ⟨3⟩ =
        some { alice with team := .sideB } := by
  intro alice m tag
  have hp : m.player? tag.id = some alice := by decide
  obtain ⟨hwhence, hafter⟩ := a_team_change_tells_whence_iff_the_tag_agrees hp ⟨1⟩ .sideB
  exact ⟨hp, hwhence.2 (.inl rfl), hafter⟩

/-- Alice is on one side, and the line already names her with the other. -/
theorem a_team_change_can_tell_the_new_team :
    let alice : Player := { id := ⟨3⟩, name := "Alice", team := .sideA, joinedAt := ⟨0⟩ }
    let m : Model := { players := [alice] }
    let tag : PlayerTag := ⟨.sideB, ⟨3⟩, "Alice", false⟩
    m.player? tag.id = some alice ∧
      (m.apply ⟨1⟩ (.teamJoin tag .sideB none)).2 ≠
        [.teamChange { alice with team := .sideB } .sideA] := by
  decide +kernel

end RemoteConsole.Match
