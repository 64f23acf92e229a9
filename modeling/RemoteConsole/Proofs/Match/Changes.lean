import RemoteConsole.Proofs.Match.Bystanders

namespace RemoteConsole.Match

open GameLog (Entry PlayerTag)

def Player.undated (p : Player) : Player :=
  { p with joinedAt := ⟨0⟩ }

structure Mild (f : Player → Player) : Prop where
  id : ∀ p, (f p).id = p.id
  joinedAt : ∀ p, (f p).joinedAt = p.joinedAt
  undated : ∀ p, (f p).undated = f p.undated

theorem told_commutes {α : Type} (g : α → α) {f : α → String → α}
    (h : ∀ a v, g (f a v) = f (g a) v) (cell : Option String) (a : α) :
    g (told cell f a) = told cell f (g a) := by
  cases cell with
  | none => rfl
  | some v => exact h a v

theorem mild_updatePlayer (t : Table) (row : List String) : Mild (t.updatePlayer row) where
  id := t.updatePlayer_id row
  joinedAt p := by
    have hip (cell : Option String) (p : Player) :
        (told cell Player.setIp p).joinedAt = p.joinedAt :=
      told_keeps Player.joinedAt (f := Player.setIp) (fun _ _ => rfl) cell p
    simp (disch := intros; rfl) only [Table.updatePlayer, hip, told_keeps Player.joinedAt]
  undated p := by
    unfold Table.updatePlayer
    iterate 12 rw [told_commutes Player.undated]
    all_goals
      intros
      simp only [Player.undated, Player.setIp]

/-- Players come or go, take another id, or all begin anew. -/
def Rearranges : Entry → Prop
  | .playerEnter .. | .playerExit _ | .idChange .. | .matchStart _ => True
  | _ => False

/-- A relation that still holds of two models when the same has been done to both. Only the players
matter to it. -/
structure Kept (now now' : Instant) (R : Model → Model → Prop) : Prop where
  touch : ∀ {m m' : Model}, R m m' → ∀ tag, R (m.touch now tag) (m'.touch now' tag)
  edit : ∀ {m m' : Model} {f : Player → Player}, R m m' → Mild f → ∀ id,
    R (m.edit id f) (m'.edit id f)
  players : ∀ {m m' after after' : Model}, R m m' → after.players = m.players →
    after'.players = m'.players → R after after'

namespace Kept

variable {now now' : Instant} {R : Model → Model → Prop} {m m' : Model}

section Parts

variable (hkept : Kept now now' R)

include hkept

theorem touchOption (h : R m m') (tag : Option PlayerTag) :
    R (m.touchOption now tag) (m'.touchOption now' tag) := by
  cases tag with
  | none => exact h
  | some tag => exact hkept.touch h tag

theorem acting (h : R m m') (tag : PlayerTag) {f : Player → Player} (hf : Mild f)
    (event event' : Player → Event) :
    R (m.acting now tag f event).1 (m'.acting now' tag f event').1 :=
  hkept.edit (hkept.touch h tag) hf tag.id

theorem latch {r r' : Model × List Event} (h : R r.1 r'.1) (milestone : Milestone)
    (tag : PlayerTag) :
    R (Model.latch now milestone tag r).1 (Model.latch now' milestone tag r').1 := by
  refine hkept.players h ?_ ?_
  · rw [Model.latch_model]
  · rw [Model.latch_model]

theorem kill (h : R m m') (killer victim : PlayerTag) (damage : String) :
    R (m.kill now killer victim damage).1 (m'.kill now' killer victim damage).1 := by
  have htouched := hkept.touch (hkept.touch h killer) victim
  refine hkept.latch (hkept.latch (hkept.latch ?_ _ _) _ _) _ _
  refine hkept.edit (hkept.edit htouched ?_ killer.id) ?_ victim.id
  · exact ⟨fun _ => rfl, fun _ => rfl, fun _ => rfl⟩
  · exact ⟨fun _ => rfl, fun _ => rfl, fun _ => rfl⟩

theorem destroyed (h : R m m') (kind : GameLog.ObjectKind) (object : String)
    (killer : Option PlayerTag) (killerName damage : String) :
    R (m.destroyed now kind object killer killerName damage).1
      (m'.destroyed now' kind object killer killerName damage).1 := by
  have hbuilding (f : Building → Building) :
      R (if kind = .building then m.editBuilding object f else m)
        (if kind = .building then m'.editBuilding object f else m') := by
    split
    · exact hkept.players h rfl rfl
    · exact h
  have hcount : Mild (Model.countDestroyed kind) := by
    cases kind <;> exact ⟨fun _ => rfl, fun _ => rfl, fun _ => rfl⟩
  unfold Model.destroyed
  cases killer with
  | none => exact hbuilding _
  | some tag => exact hkept.latch (hkept.acting (hbuilding _) tag hcount _ _) _ tag

theorem captured (h : R m m') (tag : PlayerTag) (name : String) (oldTeam : Team) :
    R (m.captured now tag name oldTeam).1 (m'.captured now' tag name oldTeam).1 := by
  have hacted := hkept.acting h tag (f := fun p => { p with captures := p.captures + 1 })
    ⟨fun _ => rfl, fun _ => rfl, fun _ => rfl⟩ (.capture · name oldTeam) (.capture · name oldTeam)
  refine hkept.latch ?_ .firstAction tag
  exact hkept.players hacted rfl rfl

theorem neutralized (h : R m m') (tag : PlayerTag) (name : String) (oldTeam : Team) :
    R (m.neutralized now tag name oldTeam).1 (m'.neutralized now' tag name oldTeam).1 := by
  have hacted := hkept.acting h tag (f := fun p => p) ⟨fun _ => rfl, fun _ => rfl, fun _ => rfl⟩
    (.neutralize · name oldTeam) (.neutralize · name oldTeam)
  refine hkept.latch ?_ .firstAction tag
  exact hkept.players hacted rfl rfl

theorem deployed (h : R m m') (tag : PlayerTag) (object : String) :
    R (m.deployed now tag object).1 (m'.deployed now' tag object).1 := by
  refine hkept.latch (hkept.acting h tag ?_ _ _) _ tag
  cases isBeacon object <;> cases isMine object <;>
    exact ⟨fun _ => rfl, fun _ => rfl, fun _ => rfl⟩

theorem disarmed (h : R m m') (tag : PlayerTag) (object : String) (owner : Option PlayerTag) :
    R (m.disarmed now tag object owner).1 (m'.disarmed now' tag object owner).1 := by
  refine hkept.latch (hkept.touchOption (hkept.edit (hkept.touch h tag) ?_ _) owner) _ tag
  cases isBeacon object <;> cases isMine object <;>
    exact ⟨fun _ => rfl, fun _ => rfl, fun _ => rfl⟩

end Parts

theorem apply (hkept : Kept now now' R) (h : R m m') {e : Entry} (he : ¬ Rearranges e) :
    R (m.apply now e).1 (m'.apply now' e).1 := by
  cases e with
  | playerEnter | playerExit | idChange | matchStart => exact absurd trivial he
  | kill killer victim damage => exact hkept.kill h killer victim damage
  | destroyed kind object killer killerName damage =>
      exact hkept.destroyed h kind object killer killerName damage
  | captured tag building oldTeam => exact hkept.captured h tag building oldTeam
  | neutralized tag building oldTeam => exact hkept.neutralized h tag building oldTeam
  | deployed tag object => exact hkept.deployed h tag object
  | disarmed tag object owner => exact hkept.disarmed h tag object owner
  | voteCalled team topic tag params => exact hkept.touchOption h tag
  | playerKick | teamJoin | nameChange | chat | teamChat | adminLogin | adminLogout
  | adminGranted =>
      refine hkept.acting h _ ?_ _ _
      exact ⟨fun _ => rfl, fun _ => rfl, fun _ => rfl⟩
  | death | suicide =>
      refine hkept.latch (hkept.acting h _ ?_ _ _) _ _
      exact ⟨fun _ => rfl, fun _ => rfl, fun _ => rfl⟩
  | matchEnd | hostChat | voteResults | voteCancelled | mapChanging | mapLoaded | mapStart
  | consoleCommand | consoleSubscribed | consoleUnsubscribed | unknown =>
      exact hkept.players h rfl rfl

end Kept

end RemoteConsole.Match
