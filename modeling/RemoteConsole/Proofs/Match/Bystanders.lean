import RemoteConsole.Proofs.Match.Roster

namespace RemoteConsole

open GameLog (Entry PlayerTag)
open Match (Player)

namespace GameLog.Entry

/-- The ids that occur in a line. -/
def ids : Entry → List PlayerId
  | .playerEnter tag .. | .playerExit tag => [tag.id]
  | .idChange oldId newId => [oldId, newId]
  | e => e.tags.map (·.id)

/-- What becomes of players whom a line does not name. -/
def onBystander : Entry → Player → Player
  | .matchStart _, p =>
      { p with
        kills := 0, deaths := 0, suicides := 0, headshots := 0, vehicleKills := 0
        buildingKills := 0, defenceKills := 0, captures := 0, beaconPlacements := 0
        beaconDisarms := 0, minePlacements := 0, mineDisarms := 0, score := 0 }
  | _, p => p

end GameLog.Entry

namespace Match

section Lists

variable {α : Type} {p q : α → Bool} {f : α → α}

/-- Of the elements that satisfy `p` the first has become `f` of it; all else is as before. -/
def FirstChanged (p : α → Bool) (f : α → α) (xs ys : List α) : Prop :=
  (∀ x ∈ xs, ¬ p x) ∧ ys = xs ∨
    ∃ before x behind, xs = before ++ x :: behind ∧ (∀ y ∈ before, ¬ p y) ∧ p x ∧
      ys = before ++ f x :: behind

theorem firstChanged_changeFirst (p : α → Bool) (f : α → α) (xs : List α) :
    FirstChanged p f xs (changeFirst p f xs) := by
  induction xs with
  | nil => exact .inl ⟨fun _ h => absurd h List.not_mem_nil, rfl⟩
  | cons x xs ih =>
      rw [changeFirst]
      by_cases hx : p x
      · rw [if_pos hx]
        exact .inr ⟨[], x, xs, rfl, fun _ h => absurd h List.not_mem_nil, hx, rfl⟩
      · rw [if_neg hx]
        rcases ih with ⟨hnone, hsame⟩ | ⟨before, y, behind, hxs, hbefore, hy, hys⟩
        · rw [hsame]
          exact .inl ⟨List.forall_mem_cons.2 ⟨hx, hnone⟩, rfl⟩
        · rw [hys, hxs]
          exact .inr ⟨x :: before, y, behind, rfl, List.forall_mem_cons.2 ⟨hx, hbefore⟩, hy, rfl⟩

theorem filter_changeFirst (hp : ∀ x, p x → q x = false) (hf : ∀ x, p x → q (f x) = false)
    (xs : List α) : (changeFirst p f xs).filter q = xs.filter q := by
  induction xs with
  | nil => rfl
  | cons x xs ih =>
      rw [changeFirst]
      by_cases hx : p x
      · rw [if_pos hx]
        simp [hp x hx, hf x hx]
      · rw [if_neg hx, List.filter_cons, List.filter_cons, ih]

theorem filter_eraseP (hp : ∀ x, p x → q x = false) (xs : List α) :
    (xs.eraseP p).filter q = xs.filter q := by
  induction xs with
  | nil => rfl
  | cons x xs ih =>
      by_cases hx : p x
      · simp [hx, hp x hx]
      · rw [List.eraseP_cons_of_neg hx, List.filter_cons, List.filter_cons, ih]

end Lists

namespace Model

def bystanders (m : Model) (ids : List PlayerId) : List Player :=
  m.players.filter fun p => p.id ∉ ids

/-- At most the players with these ids have changed, and which milestones have been reached. -/
structure Spares (ids : List PlayerId) (m after : Model) : Prop where
  bystanders : after.bystanders ids = m.bystanders ids
  others : after = { m with players := after.players, reached := after.reached }

namespace Spares

variable {ids : List PlayerId} {m between after : Model}

theorem refl (m : Model) : m.Spares ids m :=
  ⟨rfl, rfl⟩

theorem trans (h : m.Spares ids between) (h' : between.Spares ids after) : m.Spares ids after where
  bystanders := h'.bystanders.trans h.bystanders
  others := by rw [h'.others, h.others]

theorem buildings (h : m.Spares ids after) : after.buildings = m.buildings := by
  rw [h.others]

theorem rotation (h : m.Spares ids after) : after.rotation = m.rotation := by
  rw [h.others]

theorem info (h : m.Spares ids after) : after.info = m.info := by
  rw [h.others]

end Spares

variable {ids : List PlayerId} (now : Instant) (m : Model)

theorem spares_edit {id : PlayerId} (hid : id ∈ ids) {f : Player → Player}
    (hf : ∀ p, p.id = id → (f p).id ∈ ids) : m.Spares ids (m.edit id f) where
  bystanders := by
    refine filter_changeFirst (fun p hp => ?_) (fun p hp => ?_) m.players
    · simpa [beq_iff_eq.1 hp] using hid
    · simpa using hf p (beq_iff_eq.1 hp)
  others := rfl

theorem spares_add {p : Player} (hp : p.id ∈ ids) : m.Spares ids (m.add p) where
  bystanders := by simp [bystanders, add, hp]
  others := rfl

theorem spares_remove {id : PlayerId} (hid : id ∈ ids) : m.Spares ids (m.remove id) where
  bystanders := by
    refine filter_eraseP (fun p hp => ?_) m.players
    simpa [beq_iff_eq.1 hp] using hid
  others := rfl

theorem spares_touch {tag : PlayerTag} (htag : tag.id ∈ ids) :
    m.Spares ids (m.touch now tag) := by
  unfold touch
  split
  · split
    · exact .refl m
    · refine m.spares_edit htag fun p hp => ?_
      rwa [← hp] at htag
  · exact m.spares_add htag

theorem spares_touchOption {tag : Option PlayerTag} (htag : ∀ t ∈ tag, t.id ∈ ids) :
    m.Spares ids (m.touchOption now tag) := by
  cases tag with
  | none => exact .refl m
  | some tag => exact m.spares_touch now (htag tag rfl)

theorem latch_model (milestone : Milestone) (tag : PlayerTag) (r : Model × List Event) :
    (latch now milestone tag r).1 =
      { r.1 with reached := (latch now milestone tag r).1.reached } := by
  unfold latch
  dsimp only
  split <;> rfl

theorem spares_latch {milestone : Milestone} {tag : PlayerTag} {r : Model × List Event}
    (h : m.Spares ids r.1) : m.Spares ids (latch now milestone tag r).1 := by
  rw [latch_model]
  exact h.trans ⟨rfl, rfl⟩

theorem spares_acting {tag : PlayerTag} (htag : tag.id ∈ ids) {f : Player → Player}
    (hf : ∀ p, (f p).id = p.id) (event : Player → Event) :
    m.Spares ids (m.acting now tag f event).1 := by
  refine (m.spares_touch now htag).trans (spares_edit _ htag fun p hp => ?_)
  rwa [hf, hp]

section Named

variable {m} {tag : PlayerTag}

theorem player?_of_mem_ids (h : tag.id ∈ m.ids) :
    m.player? tag.id = some (m.snapshot now tag) := by
  obtain ⟨p, hp⟩ := Option.isSome_iff_exists.1 ((m.isSome_player? tag.id).2 h)
  rw [snapshot, hp, Option.getD_some]

variable (m)

theorem mem_ids_touch (tag : PlayerTag) : tag.id ∈ (m.touch now tag).ids := by
  unfold touch
  split
  · rename_i hknown
    rw [isSome_player?] at hknown
    split
    · exact hknown
    · rw [ids_edit]
      · exact hknown
      · exact fun _ => rfl
  · rw [ids_add]
    exact List.mem_append_right _ (List.mem_singleton_self tag.id)

theorem mem_ids_acting (tag : PlayerTag) {f : Player → Player} (hf : ∀ p, (f p).id = p.id)
    (event : Player → Event) : tag.id ∈ (m.acting now tag f event).1.ids := by
  change tag.id ∈ ((m.touch now tag).edit tag.id f).ids
  rw [ids_edit _ hf]
  exact m.mem_ids_touch now tag

end Named

end Model

/-- What a line does to the buildings. A captured one goes to the team of the player who captured
it. -/
def Rebuilt (m after : Model) : Entry → Prop
  | .mapChanging .. => after.buildings = []
  | .destroyed .building name .. =>
      FirstChanged (fun b => Text.sameLetters b.name name)
        (fun b => { b with destroyed := true, health := 0, armor := 0 })
        m.buildings after.buildings
  | .captured tag name _ =>
      ∃ p, after.player? tag.id = some p ∧
        FirstChanged (fun b => Text.sameLetters b.name name) (fun b => { b with team := p.team })
          m.buildings after.buildings
  | .neutralized _ name _ =>
      FirstChanged (fun b => Text.sameLetters b.name name) (fun b => { b with team := .none })
        m.buildings after.buildings
  | _ => after.buildings = m.buildings

/-- A line has touched only what it names. -/
structure Touches (e : Entry) (m after : Model) : Prop where
  players : after.bystanders e.ids = (m.bystanders e.ids).map e.onBystander
  buildings : Rebuilt m after e
  rotation : after.rotation = m.rotation
  info : after.info = m.info

namespace Model

variable {m after : Model} (now : Instant)

/-- Most lines are about the players whom they name, and about nothing else. -/
theorem Spares.touches {e : Entry} (h : m.Spares e.ids after)
    (hplayers : e.onBystander = fun p => p)
    (hbuildings : after.buildings = m.buildings → Rebuilt m after e) : Touches e m after where
  players := by rw [h.bystanders, hplayers, List.map_id']
  buildings := hbuildings h.buildings
  rotation := h.rotation
  info := h.info

variable (m)

theorem spares_changeId (oldId newId : PlayerId) :
    m.Spares [oldId, newId] (m.changeId oldId newId).1 := by
  unfold changeId
  split
  · exact .refl m
  · exact m.spares_edit List.mem_cons_self fun _ _ => by simp

theorem spares_enter (tag : PlayerTag) (ip hardwareId : String) (account : AccountId) :
    m.Spares [tag.id] (m.enter now tag ip hardwareId account).1 := by
  have hremoved := m.spares_remove (List.mem_singleton_self tag.id)
  exact hremoved.trans (spares_add _ (List.mem_singleton_self tag.id))

theorem spares_kill (killer victim : PlayerTag) (damage : String) :
    m.Spares [killer.id, victim.id] (m.kill now killer victim damage).1 := by
  have hkiller : killer.id ∈ [killer.id, victim.id] := List.mem_cons_self
  have hvictim : victim.id ∈ [killer.id, victim.id] := by simp
  have htouched := (m.spares_touch now hkiller).trans (spares_touch now _ hvictim)
  unfold kill
  apply spares_latch
  apply spares_latch
  apply spares_latch
  refine (htouched.trans (spares_edit _ hkiller fun p hp => ?_)).trans
    (spares_edit _ hvictim fun p hp => ?_)
  · exact hp ▸ hkiller
  · exact hp ▸ hvictim

theorem spares_deployed (tag : PlayerTag) (object : String) :
    m.Spares [tag.id] (m.deployed now tag object).1 := by
  refine m.spares_latch now (m.spares_acting now (List.mem_singleton_self tag.id) (fun p => ?_) _)
  split
  · rfl
  · split <;> rfl

theorem spares_disarmed (tag : PlayerTag) (object : String) (owner : Option PlayerTag) :
    m.Spares ((tag :: owner.toList).map (·.id)) (m.disarmed now tag object owner).1 := by
  have htag : tag.id ∈ (tag :: owner.toList).map (·.id) := List.mem_cons_self
  have howner : ∀ t ∈ owner, t.id ∈ (tag :: owner.toList).map (·.id) := by
    intro t ht
    simp [Option.mem_def.1 ht]
  unfold disarmed
  apply spares_latch
  refine Spares.trans ?_ (spares_touchOption now _ howner)
  refine (m.spares_touch now htag).trans (spares_edit _ htag fun p hp => ?_)
  rw [← hp] at htag
  cases isBeacon object <;> cases isMine object <;> exact htag

theorem touches_destroyed (kind : GameLog.ObjectKind) (object : String) (killer : Option PlayerTag)
    (killerName damage : String) :
    Touches (.destroyed kind object killer killerName damage) m
      (m.destroyed now kind object killer killerName damage).1 := by
  -- the building comes first, then the player who destroyed it
  generalize hstruck : (if kind = .building then
    m.editBuilding object ({ · with destroyed := true, health := 0, armor := 0 }) else m) = struck
  have hspares : struck.Spares (killer.toList.map (·.id))
      (m.destroyed now kind object killer killerName damage).1 := by
    unfold destroyed
    rw [hstruck]
    cases killer with
    | none => exact .refl struck
    | some tag =>
        refine struck.spares_latch now
          (struck.spares_acting now (List.mem_singleton_self tag.id) (fun p => ?_) _)
        cases kind <;> rfl
  have hplayers : struck.players = m.players ∧ struck.rotation = m.rotation ∧
      struck.info = m.info := by
    rw [← hstruck]
    split <;> exact ⟨rfl, rfl, rfl⟩
  refine ⟨?_, ?_, hspares.rotation.trans hplayers.2.1, hspares.info.trans hplayers.2.2⟩
  · have hsame : struck.bystanders (killer.toList.map (·.id)) =
        m.bystanders (killer.toList.map (·.id)) := by
      rw [bystanders, hplayers.1, bystanders]
    exact (hspares.bystanders.trans hsame).trans (List.map_id' _).symm
  · cases kind with
    | building =>
        change FirstChanged _ _ _ _
        rw [hspares.buildings, ← hstruck]
        exact firstChanged_changeFirst _ _ _
    | vehicle | defence | emplacement | other =>
        change _ = _
        rw [hspares.buildings, ← hstruck]
        rfl

theorem touches_takenOver {e : Entry} {tag : PlayerTag} (hids : e.ids = [tag.id])
    (hplayers : e.onBystander = fun p => p) {acted : Model} (hacted : m.Spares [tag.id] acted)
    {change : Building → Building} {name : String} {after : Model}
    (hafter : after = { acted.editBuilding name change with reached := after.reached })
    (hbuildings : after.player? tag.id = acted.player? tag.id →
      FirstChanged (fun b => Text.sameLetters b.name name) change m.buildings after.buildings →
      Rebuilt m after e) : Touches e m after where
  players := by
    rw [hids, hplayers, List.map_id', ← hacted.bystanders, hafter]
    rfl
  buildings := by
    refine hbuildings (by rw [hafter]; rfl) ?_
    rw [hafter, ← hacted.buildings]
    exact firstChanged_changeFirst _ _ _
  rotation := by
    rw [hafter]
    exact hacted.rotation
  info := by
    rw [hafter]
    exact hacted.info

theorem touches_captured (tag : PlayerTag) (name : String) (oldTeam : Team) :
    Touches (.captured tag name oldTeam) m (m.captured now tag name oldTeam).1 := by
  have hacted := m.spares_acting now (List.mem_singleton_self tag.id)
    (f := fun p => { p with captures := p.captures + 1 }) (fun _ => rfl) (.capture · name oldTeam)
  have hthere := m.mem_ids_acting now tag
    (f := fun p => { p with captures := p.captures + 1 }) (fun _ => rfl) (.capture · name oldTeam)
  refine m.touches_takenOver rfl rfl hacted (latch_model now .firstAction tag _) ?_
  exact fun hplayer hchanged => ⟨_, hplayer.trans (player?_of_mem_ids now hthere), hchanged⟩

theorem touches_neutralized (tag : PlayerTag) (name : String) (oldTeam : Team) :
    Touches (.neutralized tag name oldTeam) m (m.neutralized now tag name oldTeam).1 := by
  have hacted := m.spares_acting now (List.mem_singleton_self tag.id)
    (f := id) (fun _ => rfl) (.neutralize · name oldTeam)
  refine m.touches_takenOver rfl rfl hacted (latch_model now .firstAction tag _) ?_
  exact fun _ hchanged => hchanged

theorem touches_apply (e : Entry) : Touches e m (m.apply now e).1 := by
  cases e with
  | playerEnter tag ip hardwareId account =>
      exact Spares.touches (m.spares_enter now tag ip hardwareId account) rfl id
  | playerExit tag =>
      exact Spares.touches (m.spares_remove (List.mem_singleton_self tag.id)) rfl id
  | idChange oldId newId => exact Spares.touches (m.spares_changeId oldId newId) rfl id
  | kill killer victim damage =>
      exact Spares.touches (m.spares_kill now killer victim damage) rfl id
  | destroyed kind object killer killerName damage =>
      exact m.touches_destroyed now kind object killer killerName damage
  | captured tag name oldTeam => exact m.touches_captured now tag name oldTeam
  | neutralized tag name oldTeam => exact m.touches_neutralized now tag name oldTeam
  | deployed tag object => exact Spares.touches (m.spares_deployed now tag object) rfl id
  | disarmed tag object owner =>
      exact Spares.touches (m.spares_disarmed now tag object owner) rfl id
  | voteCalled team topic tag params =>
      have htag : ∀ t ∈ tag, t.id ∈ (Entry.voteCalled team topic tag params).ids := by
        intro t ht
        simp [Entry.ids, Entry.tags, Option.mem_def.1 ht]
      exact Spares.touches (m.spares_touchOption now htag) rfl id
  | playerKick | teamJoin | nameChange | chat | teamChat | adminLogin | adminLogout
  | adminGranted =>
      refine Spares.touches (m.spares_acting now (List.mem_singleton_self _) ?_ _) rfl id
      exact fun _ => rfl
  | death | suicide =>
      refine Spares.touches (m.spares_latch now ?_) rfl id
      refine m.spares_acting now (List.mem_singleton_self _) ?_ _
      exact fun _ => rfl
  | matchStart map =>
      have hall (players : List Player) : players.filter (fun p => p.id ∉ []) = players :=
        List.filter_eq_self.2 fun _ _ => by simp
      refine ⟨?_, rfl, rfl, rfl⟩
      exact (hall _).trans (congrArg (List.map _) (hall _).symm)
  | mapChanging map seamless => exact ⟨(List.map_id' _).symm, rfl, rfl, rfl⟩
  | matchEnd | hostChat | voteResults | voteCancelled | mapLoaded | mapStart | consoleCommand
  | consoleSubscribed | consoleUnsubscribed | unknown =>
      exact ⟨(List.map_id' _).symm, rfl, rfl, rfl⟩

/-- A line leaves alone all players whom it does not name, in their order, but for a new match,
which starts with all counters at zero; of the buildings at most the one that it is about changes,
or all are gone; rotation and match information stay. A line that is not known does nothing. -/
theorem a_line_touches_only_what_it_names (e : Entry) :
    Touches e m (m.apply now e).1 ∧
      ∀ header topic, m.apply now (.unknown header topic) = (m, []) :=
  ⟨m.touches_apply now e, fun _ _ => rfl⟩

end Model

end Match

end RemoteConsole
