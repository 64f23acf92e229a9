import RemoteConsole.Proofs.Match.Changes
import RemoteConsole.Proofs.Match.Lookups

namespace RemoteConsole.Match

open GameLog (Entry PlayerTag)

namespace Player

/-- One who has just joined, as the line that says so tells of them. -/
def joined (now : Instant) (tag : PlayerTag) (ip hardwareId : String) (account : AccountId) :
    Player where
  id := tag.id
  name := tag.name
  ip := ip
  address := .parse ip
  hardwareId := hardwareId
  account := account
  hostName := .pending none
  team := tag.team
  isBot := tag.isBot
  joinedAt := now
  adminLevel := none
  banFlags := .none
  kills := 0
  deaths := 0
  suicides := 0
  headshots := 0
  vehicleKills := 0
  buildingKills := 0
  defenceKills := 0
  captures := 0
  beaconPlacements := 0
  beaconDisarms := 0
  minePlacements := 0
  mineDisarms := 0
  score := 0
  credits := 0
  ping := 0

end Player

namespace Model

variable {now now' : Instant} {m m' : Model} {id : PlayerId}

/-- An id finds the same player in both, but for when they joined, or nobody in both. -/
def SameOf (id : PlayerId) (m m' : Model) : Prop :=
  (m.player? id).map Player.undated = (m'.player? id).map Player.undated

namespace SameOf

theorem of_none (h : m.player? id = none) (h' : m'.player? id = none) : SameOf id m m' := by
  rw [SameOf, h, h']

theorem isSome (h : SameOf id m m') : (m.player? id).isSome = (m'.player? id).isSome := by
  rw [← Option.isSome_map (f := Player.undated), h, Option.isSome_map]

theorem of_spared (h : SameOf id m m') {after after' : Model}
    (hsame : after.player? id = m.player? id) (hsame' : after'.player? id = m'.player? id) :
    SameOf id after after' := by
  rw [SameOf, hsame, hsame']
  exact h

theorem edit (h : SameOf id m m') {f : Player → Player} (hf : Mild f) (other : PlayerId) :
    SameOf id (m.edit other f) (m'.edit other f) := by
  have hmap (o : Option Player) : (o.map f).map Player.undated = (o.map Player.undated).map f := by
    cases o with
    | none => rfl
    | some p => exact congrArg some (hf.undated p)
  rw [SameOf, player?_edit_of_keeps m hf.id, player?_edit_of_keeps m' hf.id]
  split
  · rw [hmap, hmap, h]
  · exact h

theorem add (h : SameOf id m m') {p p' : Player} (hp : p.undated = p'.undated) :
    SameOf id (m.add p) (m'.add p') := by
  have hid : p.undated.id = p'.undated.id := by rw [hp]
  have hmap (o : Option Player) (p : Player) :
      (o.or (if p.id = id then some p else none)).map Player.undated =
        (o.map Player.undated).or (if p.id = id then some p.undated else none) := by
    rw [Option.map_or, apply_ite (Option.map Player.undated)]
    rfl
  rw [SameOf, player?_add, player?_add, hmap, hmap, h, hp]
  exact congrArg (fun i => Option.or _ (if i = id then some _ else none)) hid

theorem touch (h : SameOf id m m') (tag : PlayerTag) :
    SameOf id (m.touch now tag) (m'.touch now' tag) := by
  by_cases htag : tag.id = id
  · subst htag
    unfold Model.touch
    rw [h.isSome]
    split
    · split
      · exact h
      · refine h.edit ?_ tag.id
        exact ⟨fun _ => rfl, fun _ => rfl, fun _ => rfl⟩
    · exact h.add rfl
  · have hother : id ∉ [tag.id] := fun hid => htag (List.mem_singleton.1 hid).symm
    exact h.of_spared ((m.spares_touch now (List.mem_singleton_self _)).player? hother)
      ((m'.spares_touch now' (List.mem_singleton_self _)).player? hother)

end SameOf

theorem kept_sameOf (now now' : Instant) (id : PlayerId) : Kept now now' (SameOf id) where
  touch := SameOf.touch
  edit h hf other := h.edit hf other
  players h hafter hafter' := by
    refine h.of_spared ?_ ?_
    · rw [player?, hafter, player?]
    · rw [player?, hafter', player?]

theorem sameOf_apply (h : m.player? id = none) (h' : m'.player? id = none) {e : Entry}
    (hchange : ∀ oldId newId, e ≠ .idChange oldId newId) :
    SameOf id (m.apply now e).1 (m'.apply now' e).1 := by
  cases e with
  | playerEnter tag ip hardwareId account =>
      have hremoved : SameOf id (m.remove tag.id) (m'.remove tag.id) :=
        .of_none (player?_remove_of_none m h) (player?_remove_of_none m' h')
      exact hremoved.add rfl
  | playerExit tag => exact .of_none (player?_remove_of_none m h) (player?_remove_of_none m' h')
  | idChange oldId newId => exact absurd rfl (hchange oldId newId)
  | matchStart map =>
      refine .of_none ?_ ?_
      · rw [player?_apply_of_not_mem now m (.matchStart map) List.not_mem_nil, h]
        rfl
      · rw [player?_apply_of_not_mem now' m' (.matchStart map) List.not_mem_nil, h']
        rfl
  | _ => exact (kept_sameOf now now' id).apply (.of_none h h') not_false

section Roster

variable {t : Table} {state state' : Model × List Event} {row : List String}

namespace SameOf

theorem rosterRow (h : SameOf id state.1 state'.1) (row : List String) :
    SameOf id (rosterRow now t state row).1 (rosterRow now' t state' row).1 := by
  by_cases hrow : (t.playerId? row).map Prod.fst = some id
  · obtain ⟨⟨other, isBot⟩, hcell, rfl⟩ := Option.map_eq_some_iff.1 hrow
    obtain ⟨m, events⟩ := state
    obtain ⟨m', events'⟩ := state'
    unfold Model.rosterRow
    simp only [hcell, h.isSome]
    split
    · exact h.edit (mild_updatePlayer t row) _
    · refine h.add ?_
      rw [(mild_updatePlayer t row).undated, (mild_updatePlayer t row).undated]
      rfl
  · exact h.of_spared (player?_rosterRow_of_ne now hrow) (player?_rosterRow_of_ne now' hrow)

theorem rosterRows (h : SameOf id state.1 state'.1) (rows : List (List String)) :
    SameOf id (rows.foldl (Model.rosterRow now t) state).1
      (rows.foldl (Model.rosterRow now' t) state').1 := by
  induction rows generalizing state state' with
  | nil => exact h
  | cons row rows ih =>
      rw [List.foldl_cons, List.foldl_cons]
      exact ih (h.rosterRow row)

end SameOf

theorem sameOf_applyRoster (h : m.player? id = none) (h' : m'.player? id = none)
    (hid : id ∈ t.ids) :
    SameOf id (m.applyRoster now t).1 (m'.applyRoster now' t).1 := by
  have hrows : SameOf id (t.rows.foldl (rosterRow now t) (m, [])).1
      (t.rows.foldl (rosterRow now' t) (m', [])).1 :=
    SameOf.rosterRows (.of_none h h') t.rows
  exact hrows.of_spared (player?_applyRoster_of_mem now m hid)
    (player?_applyRoster_of_mem now' m' hid)

end Roster

end Model

namespace Step

variable {now now' : Instant} {m m' : Model} {id : PlayerId}

/-- A step names an id, and not as one that is given up. -/
def Brings (id : PlayerId) : Step → Prop
  | line _ (.idChange ..) | line _ (.playerExit _) => False
  | step => id ∈ step.ids

theorem Brings.line {e : Entry} (h : Brings id (.line now e)) :
    id ∈ e.ids ∧ (∀ tag, e ≠ .playerExit tag) ∧ ∀ oldId newId, e ≠ .idChange oldId newId := by
  refine ⟨?_, fun tag he => ?_, fun oldId newId he => ?_⟩
  · cases e with
    | playerExit | idChange => exact h.elim
    | _ => exact h
  · rw [he] at h
    exact h
  · rw [he] at h
    exact h

theorem Brings.table {t : Table} (h : Brings id (.table now t)) :
    t.verb = "clientvarlist" ∧ id ∈ t.ids := by
  have hid : id ∈ if t.verb = "clientvarlist" then t.ids else [] := h
  split at hid
  · exact ⟨‹_›, hid⟩
  · exact absurd hid List.not_mem_nil

def dated (now : Instant) : Step → Step
  | line _ e => line now e
  | table _ t => table now t
  | roster _ t => roster now t
  | wipe => wipe
  | setTravelling travelling => setTravelling travelling

theorem mem_ids_run {step : Step} (h : step.Brings id) : id ∈ (step.run m).ids := by
  cases step with
  | line now e =>
      obtain ⟨hid, hexit, hchange⟩ := h.line
      exact Model.mem_ids_apply hid hexit hchange
  | table now t =>
      obtain ⟨ht, hid⟩ := h.table
      rw [run, m.applyTable_of_roster now t ht]
      exact Model.mem_ids_applyRoster now m hid
  | roster now t => exact Model.mem_ids_applyRoster now m h
  | wipe | setTravelling => exact absurd h List.not_mem_nil

/-- Where nobody has an id, whoever comes with it is the same. -/
theorem sameOf_run (h : m.player? id = none) (h' : m'.player? id = none) {step : Step}
    (hstep : step.Brings id) (now : Instant) :
    Model.SameOf id (step.run m) ((step.dated now).run m') := by
  cases step with
  | line _ e => exact Model.sameOf_apply h h' hstep.line.2.2
  | table _ t =>
      obtain ⟨ht, hid⟩ := hstep.table
      rw [dated, run, run, m.applyTable_of_roster _ t ht, m'.applyTable_of_roster _ t ht]
      exact Model.sameOf_applyRoster h h' hid
  | roster _ t => exact Model.sameOf_applyRoster h h' hstep
  | wipe => rfl
  | setTravelling travelling => exact .of_none h h'

end Step

/-- The player with an id leaves, and no step behind that names the id. -/
def Vacates (id : PlayerId) (steps : List Step) : Prop :=
  ∃ now tag behind, steps = .line now (.playerExit tag) :: behind ∧ tag.id = id ∧
    ∀ step ∈ behind, id ∉ step.ids

namespace Model

variable {m m' : Model} {id : PlayerId}

/-- An id finds players in both who differ in nothing but when they joined. -/
def AgreeOn (id : PlayerId) (m m' : Model) : Prop :=
  ∃ p p', m.player? id = some p ∧ m'.player? id = some p' ∧ p.undated = p'.undated

theorem SameOf.agreeOn (h : SameOf id m m') (hthere : id ∈ m.ids) : AgreeOn id m m' := by
  obtain ⟨p, hp⟩ := Option.isSome_iff_exists.1 ((m.isSome_player? id).2 hthere)
  rw [SameOf, hp, Option.map_some] at h
  obtain ⟨p', hp', hsame⟩ := Option.map_eq_some_iff.1 h.symm
  exact ⟨p, p', hp, hp', hsame.symm⟩

theorem Distinct.player?_enter (h : m.Distinct) (now : Instant) (tag : PlayerTag)
    (ip hardwareId : String) (account : AccountId) :
    (m.apply now (.playerEnter tag ip hardwareId account)).1.player? tag.id =
      some (.joined now tag ip hardwareId account) := by
  have hmade : { (Player.ofTag now tag).setIp ip with hardwareId, account } =
      Player.joined now tag ip hardwareId account := by
    simp only [Player.ofTag, Player.setIp, Player.joined, HostName.unasked]
  rw [apply, enter, hmade, player?_add, h.player?_remove]
  exact if_pos rfl

theorem Distinct.player?_of_vacates (h : m.Distinct) {steps : List Step}
    (hsteps : Vacates id steps) : (Step.runAll m steps).player? id = none := by
  obtain ⟨now, tag, behind, rfl, rfl, hbehind⟩ := hsteps
  exact Step.player?_runAll_of_not_mem (h.player?_remove tag.id) hbehind

end Model

/-- The holder of an id has nothing of those who held it before, in whichever model and after
whatever has happened: one who joins has what the line tells and nothing else, and once a player
has left, the next line or roster that names the id brings someone who differs only in when they
joined. -/
theorem a_reused_id_inherits_nothing {m m' : Model} (h : m.Distinct) (h' : m'.Distinct) :
    (∀ now now' tag ip hardwareId account,
      (m.apply now (.playerEnter tag ip hardwareId account)).1.player? tag.id =
          some (.joined now tag ip hardwareId account) ∧
        Model.AgreeOn tag.id (m.apply now (.playerEnter tag ip hardwareId account)).1
          (m'.apply now' (.playerEnter tag ip hardwareId account)).1) ∧
      ∀ id before before', Vacates id before → Vacates id before' → ∀ step : Step, step.Brings id →
        (Step.runAll m before).player? id = none ∧
          ∀ now, Model.AgreeOn id (step.run (Step.runAll m before))
            ((step.dated now).run (Step.runAll m' before')) := by
  refine ⟨fun now now' tag ip hardwareId account => ?_, ?_⟩
  · have hjoined := h.player?_enter now tag ip hardwareId account
    have hjoined' := h'.player?_enter now' tag ip hardwareId account
    exact ⟨hjoined, _, _, hjoined, hjoined', rfl⟩
  · intro id before before' hbefore hbefore' step hstep
    have hnone := h.player?_of_vacates hbefore
    have hnone' := h'.player?_of_vacates hbefore'
    exact ⟨hnone, fun now => (Step.sameOf_run hnone hnone' hstep now).agreeOn
      (Step.mem_ids_run hstep)⟩

theorem a_reused_id_inherits_nothing_from_a_banned_administrator :
    let banned : Player := {
      id := ⟨3⟩, name := "Mallory", joinedAt := ⟨0⟩, banFlags := .allKinds
      adminLevel := some "Admin", kills := 7 }
    let m : Model := { players := [banned] }
    let leaving : Step := .line ⟨1⟩ (.playerExit ⟨.sideA, ⟨3⟩, "Mallory", false⟩)
    let before := [leaving, .line ⟨2⟩ (.chat ⟨.sideB, ⟨4⟩, "Bob", false⟩ "bye"), .wipe]
    let t : Table := {
      command := "clientvarlist", header := ["ID", "Name", "Kills"], rows := [["3", "Carol", "2"]] }
    (m.Distinct ∧ Model.Distinct {}) ∧ (Vacates ⟨3⟩ before ∧ Vacates ⟨3⟩ [leaving]) ∧
      Step.Brings ⟨3⟩ (.table ⟨5⟩ t) ∧ (Step.runAll m before).player? ⟨3⟩ = none ∧
      Model.AgreeOn ⟨3⟩ ((Step.table ⟨5⟩ t).run (Step.runAll m before))
        ((Step.table ⟨9⟩ t).run (Step.runAll {} [leaving])) := by
  intro banned m leaving before t
  have hdistinct : m.Distinct ∧ Model.Distinct {} := by decide
  have hvacates : Vacates ⟨3⟩ before ∧ Vacates ⟨3⟩ [leaving] :=
    ⟨⟨_, _, _, rfl, rfl, by decide⟩, ⟨_, _, _, rfl, rfl, by decide⟩⟩
  have hbrings : Step.Brings ⟨3⟩ (.table ⟨5⟩ t) := by
    change ⟨3⟩ ∈ Step.ids (.table ⟨5⟩ t)
    decide
  obtain ⟨-, hlater⟩ := a_reused_id_inherits_nothing hdistinct.1 hdistinct.2
  obtain ⟨hnone, hagree⟩ := hlater ⟨3⟩ before [leaving] hvacates.1 hvacates.2 (.table ⟨5⟩ t) hbrings
  exact ⟨hdistinct, hvacates, hbrings, hnone, hagree ⟨9⟩⟩

end RemoteConsole.Match
