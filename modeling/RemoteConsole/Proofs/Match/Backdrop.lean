import RemoteConsole.Proofs.Match.Bystanders

namespace RemoteConsole

open GameLog (Entry PlayerTag)

/-- The match or the map moves on. -/
def GameLog.Entry.MovesOn : Entry → Prop
  | .matchStart _ | .matchEnd _ | .mapChanging .. | .mapLoaded _ | .mapStart _ => True
  | _ => False

namespace Match.Model

/-- At most players, buildings and milestones have changed. -/
def PlaysOn (m after : Model) : Prop :=
  after =
    { m with players := after.players, buildings := after.buildings, reached := after.reached }

namespace PlaysOn

variable {m between after : Model}

theorem trans (h : m.PlaysOn between) (h' : between.PlaysOn after) : m.PlaysOn after := by
  rw [PlaysOn, h', h]

theorem map (h : m.PlaysOn after) : after.map = m.map := by
  rw [h]

theorem rotation (h : m.PlaysOn after) : after.rotation = m.rotation := by
  rw [h]

theorem phase (h : m.PlaysOn after) : after.phase = m.phase := by
  rw [h]

theorem editBuilding (h : m.PlaysOn between) (name : String) (f : Building → Building) :
    m.PlaysOn (between.editBuilding name f) :=
  h.trans rfl

theorem latch {r : Model × List Event} (h : m.PlaysOn r.1) (now : Instant) (milestone : Milestone)
    (tag : PlayerTag) : m.PlaysOn (Model.latch now milestone tag r).1 := by
  rw [latch_model]
  exact h.trans rfl

end PlaysOn

theorem Spares.playsOn {m after : Model} {ids : List PlayerId} (h : m.Spares ids after) :
    m.PlaysOn after := by
  rw [PlaysOn, h.others]

variable (now : Instant) (m : Model)

theorem playsOn_destroyed (kind : GameLog.ObjectKind) (object : String) (killer : Option PlayerTag)
    (killerName damage : String) :
    m.PlaysOn (m.destroyed now kind object killer killerName damage).1 := by
  have hstruck (f : Building → Building) :
      m.PlaysOn (if kind = .building then m.editBuilding object f else m) := by
    split <;> rfl
  unfold destroyed
  cases killer with
  | none => exact hstruck _
  | some tag =>
      have hcount (p : Player) : (countDestroyed kind p).id = p.id := by
        cases kind <;> rfl
      exact ((hstruck _).trans
        (spares_acting now _ (List.mem_singleton_self tag.id) hcount _).playsOn).latch now _ tag

theorem playsOn_apply {e : Entry} (he : ¬ e.MovesOn) : m.PlaysOn (m.apply now e).1 := by
  have hacting (tag : PlayerTag) {f : Player → Player} (hf : ∀ p, (f p).id = p.id) :
      m.PlaysOn ((m.touch now tag).edit tag.id f) :=
    (m.spares_acting now (List.mem_singleton_self tag.id) hf .playerJoin).playsOn
  cases e with
  | matchStart | matchEnd | mapChanging | mapLoaded | mapStart => exact absurd trivial he
  | playerEnter tag ip hardwareId account =>
      exact (m.spares_enter now tag ip hardwareId account).playsOn
  | playerExit tag => exact (m.spares_remove (List.mem_singleton_self tag.id)).playsOn
  | idChange oldId newId => exact (m.spares_changeId oldId newId).playsOn
  | kill killer victim damage => exact (m.spares_kill now killer victim damage).playsOn
  | destroyed kind object killer killerName damage =>
      exact m.playsOn_destroyed now kind object killer killerName damage
  | captured tag name oldTeam | neutralized tag name oldTeam =>
      refine PlaysOn.latch (PlaysOn.editBuilding (hacting tag ?_) name _) now .firstAction tag
      exact fun _ => rfl
  | deployed tag object => exact (m.spares_deployed now tag object).playsOn
  | disarmed tag object owner => exact (m.spares_disarmed now tag object owner).playsOn
  | voteCalled team topic tag params =>
      cases tag with
      | none => rfl
      | some tag => exact (m.spares_touch now (List.mem_singleton_self tag.id)).playsOn
  | playerKick | teamJoin | nameChange | chat | teamChat | adminLogin | adminLogout
  | adminGranted =>
      refine hacting _ ?_
      exact fun _ => rfl
  | death | suicide =>
      refine (hacting _ ?_).latch now _ _
      exact fun _ => rfl
  | hostChat | voteResults | voteCancelled | consoleCommand | consoleSubscribed
  | consoleUnsubscribed | unknown => rfl

theorem playsOn_rosterRow {state : Model × List Event} (h : m.PlaysOn state.1) (t : Table)
    (row : List String) : m.PlaysOn (rosterRow now t state row).1 := by
  unfold rosterRow
  cases t.playerId? row with
  | none => exact h
  | some cell =>
      dsimp only
      split
      · exact h.trans rfl
      · exact h.trans rfl

theorem playsOn_applyRoster (t : Table) : m.PlaysOn (m.applyRoster now t).1 := by
  have hrows (rows : List (List String)) {state : Model × List Event} (h : m.PlaysOn state.1) :
      m.PlaysOn (rows.foldl (rosterRow now t) state).1 := by
    induction rows generalizing state with
    | nil => exact h
    | cons row rows ih =>
        rw [List.foldl_cons]
        exact ih (m.playsOn_rosterRow now h t row)
  unfold applyRoster
  split
  · rfl
  · have hstart : m.PlaysOn (m, ([] : List Event)).1 := rfl
    have hread := hrows t.rows hstart
    generalize t.rows.foldl (rosterRow now t) (m, []) = state at hread
    obtain ⟨left, events⟩ := state
    exact hread.trans rfl

end Match.Model

end RemoteConsole
