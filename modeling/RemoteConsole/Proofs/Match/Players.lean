import RemoteConsole.Match.Answer

namespace RemoteConsole

open Match (Player)

def GameLog.Entry.tags : GameLog.Entry → List GameLog.PlayerTag
  | .playerKick tag _ | .teamJoin tag .. | .nameChange tag _ | .death tag .. | .suicide tag _
  | .captured tag .. | .neutralized tag .. | .deployed tag _ | .chat tag _ | .teamChat tag _
  | .adminLogin tag _ | .adminLogout tag _ | .adminGranted tag _ => [tag]
  | .kill killer victim _ => [killer, victim]
  | .destroyed _ _ killer _ _ => killer.toList
  | .disarmed tag _ owner => tag :: owner.toList
  | .voteCalled _ _ tag _ => tag.toList
  | _ => []

namespace Match

/-- The id of a player, by what bans know them, and what these forbid them. -/
structure Identity where
  id : PlayerId
  address : Address := .unknown
  hardwareId : String := ""
  account : AccountId := 0
  banFlags : Ban.Flags := .none
  deriving DecidableEq

def Player.identity (p : Player) : Identity :=
  ⟨p.id, p.address, p.hardwareId, p.account, p.banFlags⟩

section ChangeFirst

variable {α β : Type} {p : α → Bool} {f : α → α}

theorem changeFirst_of_forall {xs : List α} (h : ∀ a ∈ xs, p a → f a = a) :
    changeFirst p f xs = xs := by
  induction xs with
  | nil => rfl
  | cons x xs ih =>
      obtain ⟨hx, hxs⟩ := List.forall_mem_cons.1 h
      rw [changeFirst, ih hxs]
      split
      · rename_i hp
        rw [hx hp]
      · rfl

theorem map_changeFirst {g : α → β} {q : β → Bool} {h : β → β} (hq : ∀ a, q (g a) = p a)
    (hh : ∀ a, g (f a) = h (g a)) (xs : List α) :
    (changeFirst p f xs).map g = changeFirst q h (xs.map g) := by
  induction xs with
  | nil => rfl
  | cons x xs ih =>
      simp only [changeFirst, List.map_cons, hq]
      split
      · rw [List.map_cons, hh]
      · rw [List.map_cons, ih]

theorem mem_changeFirst {xs : List α} {b : α} (h : b ∈ changeFirst p f xs) :
    b ∈ xs ∨ ∃ a ∈ xs, p a ∧ b = f a := by
  induction xs with
  | nil => exact absurd h List.not_mem_nil
  | cons x xs ih =>
      simp only [changeFirst] at h
      split at h
      · rename_i hx
        rcases List.mem_cons.1 h with rfl | h
        · exact .inr ⟨x, List.mem_cons_self, hx, rfl⟩
        · exact .inl (List.mem_cons_of_mem _ h)
      · rcases List.mem_cons.1 h with rfl | h
        · exact .inl List.mem_cons_self
        · rcases ih h with h | ⟨a, ha, hchanged⟩
          · exact .inl (List.mem_cons_of_mem _ h)
          · exact .inr ⟨a, List.mem_cons_of_mem _ ha, hchanged⟩

theorem mem_changeFirst_of_not {xs : List α} {b : α} (hb : b ∈ xs) (hp : ¬ p b) :
    b ∈ changeFirst p f xs := by
  induction xs with
  | nil => exact absurd hb List.not_mem_nil
  | cons x xs ih =>
      rw [changeFirst]
      rcases List.mem_cons.1 hb with rfl | hb
      · rw [if_neg hp]
        exact List.mem_cons_self
      · split
        · exact List.mem_cons_of_mem _ hb
        · exact List.mem_cons_of_mem _ (ih hb)

theorem exists_mem_changeFirst {xs : List α} (h : ∃ a ∈ xs, p a) :
    ∃ a ∈ xs, p a ∧ f a ∈ changeFirst p f xs := by
  induction xs with
  | nil => simp at h
  | cons x xs ih =>
      rw [changeFirst]
      by_cases hx : p x
      · exact ⟨x, List.mem_cons_self, hx, by simp [hx]⟩
      · obtain ⟨a, ha, hpa⟩ := h
        rcases List.mem_cons.1 ha with rfl | ha
        · exact absurd hpa hx
        · obtain ⟨b, hb, hpb, hmem⟩ := ih ⟨a, ha, hpa⟩
          exact ⟨b, List.mem_cons_of_mem _ hb, hpb, by simp [hx, hmem]⟩

theorem find?_changeFirst {xs : List α} {x : α} (hx : xs.find? p = some x)
    (hf : p (f x)) : (changeFirst p f xs).find? p = some (f x) := by
  induction xs with
  | nil => cases hx
  | cons y ys ih =>
      rw [changeFirst]
      by_cases hy : p y
      · rw [List.find?_cons_of_pos hy] at hx
        cases hx
        rw [if_pos hy, List.find?_cons_of_pos hf]
      · rw [List.find?_cons_of_neg hy] at hx
        rw [if_neg hy, List.find?_cons_of_neg hy, ih hx]

end ChangeFirst

namespace Model

def ids (m : Model) : List PlayerId :=
  m.players.map (·.id)

def identities (m : Model) : List Identity :=
  m.players.map Player.identity

theorem map_id_identities (m : Model) : m.identities.map (·.id) = m.ids := by
  simp only [identities, ids, List.map_map]
  rfl

theorem isSome_player? (m : Model) (id : PlayerId) : (m.player? id).isSome ↔ id ∈ m.ids := by
  simp [player?, ids]

theorem player?_eq_some_id {m : Model} {id : PlayerId} {p : Player} (h : m.player? id = some p) :
    p ∈ m.players ∧ p.id = id :=
  ⟨List.mem_of_find?_eq_some h, by simpa using List.find?_some h⟩

theorem player?_edit {m : Model} {id : PlayerId} {p q : Player} (h : m.player? id = some p)
    (hq : q.id = id) : (m.edit id fun _ => q).player? id = some q := by
  apply find?_changeFirst h
  rw [hq]
  exact beq_self_eq_true id

end Model

def newcomer (id : PlayerId) : Identity where
  id := id

def welcome (known : List Identity) (id : PlayerId) : List Identity :=
  if id ∈ known.map (·.id) then known else known ++ [newcomer id]

def welcomeAll (known : List Identity) (tags : List GameLog.PlayerTag) : List Identity :=
  (tags.map (·.id)).foldl welcome known

/-- Who is connected after a line. -/
def identitiesAfter (known : List Identity) : GameLog.Entry → List Identity
  | .playerEnter tag ip hardwareId account =>
      known.eraseP (·.id == tag.id) ++ [⟨tag.id, .parse ip, hardwareId, account, .none⟩]
  | .playerExit tag => known.eraseP (·.id == tag.id)
  | .idChange oldId newId => changeFirst (·.id == oldId) ({ · with id := newId }) known
  | e => welcomeAll known e.tags

namespace Model

variable (now : Instant) (m : Model)

theorem identities_edit {id : PlayerId} {f : Player → Player} {h : Identity → Identity}
    (hf : ∀ p, (f p).identity = h p.identity) :
    (m.edit id f).identities = changeFirst (·.id == id) h m.identities :=
  map_changeFirst (q := fun i : Identity => i.id == id) (fun _ => rfl) hf m.players

theorem identities_edit_of_keeps {id : PlayerId} {f : Player → Player}
    (hf : ∀ p, (f p).identity = p.identity) : (m.edit id f).identities = m.identities := by
  rw [identities_edit m (h := fun i => i) hf, changeFirst_of_forall fun _ _ _ => rfl]

theorem identities_add (p : Player) : (m.add p).identities = m.identities ++ [p.identity] := by
  simp [identities, add]

theorem identities_remove (id : PlayerId) :
    (m.remove id).identities = m.identities.eraseP (·.id == id) :=
  (List.eraseP_map (p := fun i : Identity => i.id == id) (f := Player.identity)).symm

theorem identities_touch (tag : GameLog.PlayerTag) :
    (m.touch now tag).identities = welcome m.identities tag.id := by
  have hknown := m.isSome_player? tag.id
  rw [← map_id_identities] at hknown
  unfold touch welcome
  split
  · rename_i hsome
    rw [if_pos (hknown.1 hsome)]
    split
    · rfl
    · exact m.identities_edit_of_keeps fun _ => rfl
  · rename_i hnone
    rw [if_neg (mt hknown.2 hnone), identities_add]
    rfl

theorem identities_touchOption (tag : Option GameLog.PlayerTag) :
    (m.touchOption now tag).identities = welcomeAll m.identities tag.toList := by
  cases tag with
  | none => rfl
  | some tag => exact m.identities_touch now tag

theorem identities_latch (milestone : Milestone) (tag : GameLog.PlayerTag)
    (r : Model × List Event) : (latch now milestone tag r).1.identities = r.1.identities := by
  unfold latch
  dsimp only
  split <;> rfl

theorem identities_acting (tag : GameLog.PlayerTag) {f : Player → Player} (event : Player → Event)
    (hf : ∀ p, (f p).identity = p.identity) :
    (m.acting now tag f event).1.identities = welcomeAll m.identities [tag] :=
  ((m.touch now tag).identities_edit_of_keeps hf).trans (m.identities_touch now tag)

theorem identities_kill (killer victim : GameLog.PlayerTag) (damage : String) :
    (m.kill now killer victim damage).1.identities = welcomeAll m.identities [killer, victim] := by
  simp only [kill, identities_latch]
  rw [identities_edit_of_keeps, identities_edit_of_keeps, identities_touch, identities_touch]
  · rfl
  · exact fun _ => rfl
  · exact fun _ => rfl

theorem identities_destroyed (kind : GameLog.ObjectKind) (object : String)
    (killer : Option GameLog.PlayerTag) (killerName damage : String) :
    (m.destroyed now kind object killer killerName damage).1.identities =
      welcomeAll m.identities killer.toList := by
  have hcount (p : Player) : (countDestroyed kind p).identity = p.identity := by
    cases kind <;> rfl
  have hbuilding (f : Building → Building) : (if kind = .building then m.editBuilding object f
      else m).identities = m.identities := by
    split <;> rfl
  cases killer with
  | none => exact hbuilding _
  | some tag =>
      simp only [destroyed, identities_latch]
      rw [identities_acting _ _ _ _ hcount, hbuilding]
      rfl

theorem identities_deployed (tag : GameLog.PlayerTag) (object : String) :
    (m.deployed now tag object).1.identities = welcomeAll m.identities [tag] := by
  simp only [deployed, identities_latch]
  rw [identities_acting]
  intro p
  split
  · rfl
  · split <;> rfl

theorem identities_disarmed (tag : GameLog.PlayerTag) (object : String)
    (owner : Option GameLog.PlayerTag) :
    (m.disarmed now tag object owner).1.identities =
      welcomeAll m.identities (tag :: owner.toList) := by
  simp only [disarmed, identities_latch, identities_touchOption]
  rw [identities_edit_of_keeps, identities_touch]
  · rfl
  · intro p
    cases isBeacon object <;> cases isMine object <;> rfl

theorem identities_enter (tag : GameLog.PlayerTag) (ip hardwareId : String)
    (account : AccountId) :
    (m.enter now tag ip hardwareId account).1.identities =
      m.identities.eraseP (·.id == tag.id) ++
        [⟨tag.id, .parse ip, hardwareId, account, .none⟩] := by
  simp only [enter, identities_add, identities_remove, Player.identity, Player.setIp, Player.ofTag]

theorem identities_changeId (oldId newId : PlayerId) :
    (m.changeId oldId newId).1.identities =
      changeFirst (·.id == oldId) ({ · with id := newId }) m.identities := by
  unfold changeId
  split
  · rename_i hnone
    refine (changeFirst_of_forall fun i hi hid => ?_).symm
    obtain ⟨p, hp, rfl⟩ := List.mem_map.1 hi
    exact absurd hid (List.find?_eq_none.1 hnone p hp)
  · exact m.identities_edit (h := fun i => { i with id := newId }) fun _ => rfl

/-- Only joining, leaving and a new id change who is connected; any other line at most brings the
players it names. -/
theorem identities_apply (e : GameLog.Entry) :
    (m.apply now e).1.identities = identitiesAfter m.identities e := by
  cases e with
  | playerEnter tag ip hardwareId account => exact m.identities_enter now tag ip hardwareId account
  | playerExit tag => exact m.identities_remove tag.id
  | idChange oldId newId => exact m.identities_changeId oldId newId
  | kill killer victim damage => exact m.identities_kill now killer victim damage
  | destroyed kind object killer killerName damage =>
      exact m.identities_destroyed now kind object killer killerName damage
  | deployed tag object => exact m.identities_deployed now tag object
  | disarmed tag object owner => exact m.identities_disarmed now tag object owner
  | voteCalled team topic tag params => exact m.identities_touchOption now tag
  | playerKick | teamJoin | nameChange | chat | teamChat | adminLogin | adminLogout
  | adminGranted =>
      exact m.identities_acting now _ _ fun _ => rfl
  | death | suicide =>
      rw [apply, identities_latch]
      exact m.identities_acting now _ _ fun _ => rfl
  | captured tag building oldTeam =>
      rw [apply, captured, identities_latch]
      exact m.identities_acting now tag (.capture · building oldTeam) fun _ => rfl
  | neutralized tag building oldTeam =>
      rw [apply, neutralized, identities_latch]
      exact m.identities_acting now tag (.neutralize · building oldTeam) fun _ => rfl
  | matchStart map =>
      simp only [apply, matchStart, identities, List.map_map]
      rfl
  | matchEnd | hostChat | voteResults | voteCancelled | mapChanging | mapLoaded | mapStart
  | consoleCommand | consoleSubscribed | consoleUnsubscribed | unknown => rfl

end Model

end Match

end RemoteConsole
