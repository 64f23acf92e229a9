import RemoteConsole.Proofs.Match.Events
import RemoteConsole.Proofs.Match.Lookups

namespace RemoteConsole

open GameLog (Entry PlayerTag ObjectKind)
open Match (Player)

def Event.players : Event → List Player
  | .kill killer victim _ => [killer, victim]
  | .disarm player _ owner => player :: owner.toList
  | event => event.player?.toList

namespace Match.Model

variable (now : Instant) {m : Model} {tag : PlayerTag}

/-- The events tell of players as the model holds them. -/
def Tells (r : Model × List Event) : Prop :=
  ∀ event ∈ r.2, ∀ p ∈ event.players, r.1.player? p.id = some p

namespace Tells

theorem nil : Tells (m, []) :=
  fun _ hevent => absurd hevent List.not_mem_nil

theorem single {event : Event} (h : ∀ p ∈ event.players, m.player? p.id = some p) :
    Tells (m, [event]) := by
  intro told htold
  rw [List.mem_singleton.1 htold]
  exact h

theorem of_nobody {event : Event} (h : event.players = []) : Tells (m, [event]) :=
  single fun p hp => absurd hp (by simp [h])

theorem latch {r : Model × List Event} (h : Tells r) (htag : tag.id ∈ r.1.ids)
    (milestone : Milestone) : Tells (latch now milestone tag r) := by
  unfold Model.latch
  dsimp only
  split
  · exact h
  · intro event hevent
    rcases List.mem_append.1 hevent with hevent | hevent
    · exact h event hevent
    · rw [List.mem_singleton.1 hevent]
      intro p hp
      rw [List.mem_singleton.1 hp]
      exact player?_snapshot now htag

theorem editBuilding {r : Model × List Event} (h : Tells r) (name : String)
    (f : Building → Building) : Tells (r.1.editBuilding name f, r.2) :=
  h

end Tells

variable (m)

theorem tells_acting (tag : PlayerTag) {f : Player → Player} (hf : ∀ p, (f p).id = p.id)
    {event : Player → Event} (hevent : ∀ p, (event p).players = [p]) :
    Tells (m.acting now tag f event) := by
  refine .single fun p hp => ?_
  rw [hevent] at hp
  rw [List.mem_singleton.1 hp]
  exact player?_snapshot now (m.mem_ids_acting now tag hf event)

theorem tells_acting_latch (tag : PlayerTag) {f : Player → Player} (hf : ∀ p, (f p).id = p.id)
    {event : Player → Event} (hevent : ∀ p, (event p).players = [p]) (milestone : Milestone) :
    Tells (latch now milestone tag (m.acting now tag f event)) :=
  (m.tells_acting now tag hf hevent).latch now (m.mem_ids_acting now tag hf event) milestone

theorem tells_changeId {oldId newId : PlayerId} (h : (m.changeId oldId newId).1.Distinct) :
    Tells (m.changeId oldId newId) := by
  unfold changeId at h ⊢
  split
  · exact .nil
  · rename_i p hp
    simp only [hp] at h
    refine .single fun q hq => ?_
    rw [List.mem_singleton.1 hq]
    exact h.player?_of_mem (mem_changeFirst_of_find? (f := fun p => { p with id := newId }) hp)

theorem tells_enter {ip hardwareId : String} {account : AccountId}
    (h : (m.enter now tag ip hardwareId account).1.Distinct) :
    Tells (m.enter now tag ip hardwareId account) := by
  refine .single fun p hp => ?_
  rw [List.mem_singleton.1 hp]
  exact h.player?_of_mem (List.mem_append_right _ (List.mem_singleton_self _))

theorem tells_kill (killer victim : PlayerTag) (damage : String) :
    Tells (m.kill now killer victim damage) := by
  unfold kill
  extract_lets touched headshots hit struck
  have hids : struck.ids = touched.ids := by
    simp only [struck, hit]
    rw [ids_edit, ids_edit]
    · exact fun _ => rfl
    · exact fun _ => rfl
  have hkiller : killer.id ∈ struck.ids := by
    rw [hids]
    exact mem_ids_touch_of_mem now _ (m.mem_ids_touch now killer) victim
  have hvictim : victim.id ∈ struck.ids := by
    rw [hids]
    exact mem_ids_touch now _ victim
  have hevent : Tells (struck,
      [.kill (struck.snapshot now killer) (struck.snapshot now victim) damage]) := by
    refine .single fun p hp => ?_
    rcases List.mem_pair.1 hp with rfl | rfl
    · exact player?_snapshot now hkiller
    · exact player?_snapshot now hvictim
  refine ((hevent.latch now hkiller _).latch now ?_ _).latch now ?_ _
  · rw [ids_latch]
    exact hvictim
  · rw [ids_latch, ids_latch]
    exact hkiller

theorem tells_disarmed (tag : PlayerTag) (object : String) (owner : Option PlayerTag) :
    Tells (m.disarmed now tag object owner) := by
  unfold disarmed
  extract_lets count after
  have htag : tag.id ∈ after.ids := by
    refine mem_ids_touchOption_of_mem now _ ?_ owner
    rw [ids_edit]
    · exact m.mem_ids_touch now tag
    · intro p
      simp only [count]
      cases isBeacon object <;> cases isMine object <;> rfl
  have howner : ∀ t ∈ owner, t.id ∈ after.ids := by
    rintro t rfl
    exact mem_ids_touch now _ t
  refine Tells.latch now (.single fun p hp => ?_) htag _
  rcases List.mem_cons.1 hp with rfl | hp
  · exact player?_snapshot now htag
  · obtain ⟨t, ht, rfl⟩ := Option.map_eq_some_iff.1 (Option.mem_toList.1 hp)
    exact player?_snapshot now (howner t ht)

theorem tells_destroyed (kind : ObjectKind) (object : String) (killer : Option PlayerTag)
    (killerName damage : String) :
    Tells (m.destroyed now kind object killer killerName damage) := by
  unfold destroyed
  cases killer with
  | none => exact .of_nobody rfl
  | some tag =>
      refine tells_acting_latch now _ tag (fun p => ?_) (fun _ => rfl) _
      cases kind <;> rfl

theorem tells_deployed (tag : PlayerTag) (object : String) :
    Tells (m.deployed now tag object) := by
  refine m.tells_acting_latch now tag (fun p => ?_) (fun _ => rfl) _
  split
  · rfl
  · split <;> rfl

theorem tells_captured (tag : PlayerTag) (name : String) (oldTeam : Team) :
    Tells (m.captured now tag name oldTeam) := by
  have hacting : Tells (m.acting now tag (fun p => { p with captures := p.captures + 1 })
      (.capture · name oldTeam)) := by
    refine m.tells_acting now tag ?_ ?_
    · exact fun _ => rfl
    · exact fun _ => rfl
  have hthere := m.mem_ids_acting now tag (f := fun p => { p with captures := p.captures + 1 })
    (fun _ => rfl) (.capture · name oldTeam)
  exact Tells.latch now (hacting.editBuilding name _) hthere .firstAction

theorem tells_neutralized (tag : PlayerTag) (name : String) (oldTeam : Team) :
    Tells (m.neutralized now tag name oldTeam) := by
  have hacting : Tells (m.acting now tag id (.neutralize · name oldTeam)) :=
    m.tells_acting now tag (fun _ => rfl) fun _ => rfl
  have hthere := m.mem_ids_acting now tag (f := id) (fun _ => rfl) (.neutralize · name oldTeam)
  exact Tells.latch now (hacting.editBuilding name _) hthere .firstAction

/-- Only the event of someone who leaves tells of a player who is no longer there. -/
theorem tells_apply {e : Entry} (h : (m.apply now e).1.Distinct)
    (hstays : ∀ tag, e ≠ .playerExit tag) : Tells (m.apply now e) := by
  cases e with
  | playerEnter tag ip hardwareId account => exact m.tells_enter now h
  | playerExit tag => exact absurd rfl (hstays tag)
  | idChange oldId newId => exact m.tells_changeId h
  | kill killer victim damage => exact m.tells_kill now killer victim damage
  | destroyed kind object killer killerName damage =>
      exact m.tells_destroyed now kind object killer killerName damage
  | captured tag name oldTeam => exact m.tells_captured now tag name oldTeam
  | neutralized tag name oldTeam => exact m.tells_neutralized now tag name oldTeam
  | deployed tag object => exact m.tells_deployed now tag object
  | disarmed tag object owner => exact m.tells_disarmed now tag object owner
  | voteCalled team topic tag params =>
      refine .single fun p hp => ?_
      obtain ⟨t, rfl, rfl⟩ := Option.map_eq_some_iff.1 (Option.mem_toList.1 hp)
      exact player?_snapshot now (m.mem_ids_touch now t)
  | playerKick | teamJoin | nameChange | chat | teamChat | adminLogin | adminLogout
  | adminGranted =>
      refine m.tells_acting now _ ?_ ?_
      · exact fun _ => rfl
      · exact fun _ => rfl
  | death | suicide =>
      refine m.tells_acting_latch now _ ?_ ?_ _
      · exact fun _ => rfl
      · exact fun _ => rfl
  | unknown => exact .nil
  | matchStart | matchEnd | hostChat | voteResults | voteCancelled | mapChanging | mapLoaded
  | mapStart | consoleCommand | consoleSubscribed | consoleUnsubscribed =>
      exact .of_nobody rfl

def Mentions (events : List Event) (id : PlayerId) : Prop :=
  ∃ event ∈ events, ∃ p ∈ event.players, p.id = id

namespace Mentions

variable {id : PlayerId}

theorem single {event : Event} {p : Player} (hp : p ∈ event.players) (hid : p.id = id) :
    Mentions [event] id :=
  ⟨event, List.mem_singleton_self event, p, hp, hid⟩

theorem latch {r : Model × List Event} (h : Mentions r.2 id) (milestone : Milestone)
    (tag : PlayerTag) : Mentions (latch now milestone tag r).2 id := by
  obtain ⟨event, hevent, hp⟩ := h
  refine ⟨event, ?_, hp⟩
  unfold Model.latch
  dsimp only
  split
  · exact hevent
  · exact List.mem_append_left _ hevent

end Mentions

theorem mem_snapshots {tag : PlayerTag} {named : Option PlayerTag} (h : tag ∈ named.toList) :
    m.snapshot now tag ∈ (named.map (m.snapshot now)).toList := by
  cases Option.mem_toList.1 h
  exact List.mem_singleton_self _

theorem mentions_acting (tag : PlayerTag) (f : Player → Player) {event : Player → Event}
    (hevent : ∀ p, (event p).players = [p]) : Mentions (m.acting now tag f event).2 tag.id := by
  refine .single (p := ((m.touch now tag).edit tag.id f).snapshot now tag) ?_
    (snapshot_id now _ tag)
  rw [hevent]
  exact List.mem_singleton_self _

theorem mentions_apply (e : Entry) : ∀ tag ∈ e.tags, Mentions (m.apply now e).2 tag.id := by
  intro tag htag
  cases e with
  | kill killer victim damage =>
      refine ((Mentions.latch now ?_ _ _).latch now _ _).latch now _ _
      rcases List.mem_pair.1 htag with rfl | rfl
      · exact .single List.mem_cons_self (snapshot_id now _ tag)
      · exact .single (List.mem_cons_of_mem _ List.mem_cons_self) (snapshot_id now _ tag)
  | destroyed kind object killer killerName damage =>
      cases Option.mem_toList.1 htag
      exact (mentions_acting now _ tag _ fun _ => rfl).latch now _ tag
  | disarmed actor object owner =>
      refine Mentions.latch now ?_ _ _
      rcases List.mem_cons.1 htag with rfl | htag
      · exact .single List.mem_cons_self (snapshot_id now _ tag)
      · exact .single (List.mem_cons_of_mem _ (mem_snapshots now _ htag)) (snapshot_id now _ tag)
  | voteCalled team topic voter params =>
      exact .single (mem_snapshots now _ htag) (snapshot_id now _ tag)
  | captured | neutralized =>
      cases List.mem_singleton.1 htag
      exact Mentions.latch now (.single (List.mem_singleton_self _) (snapshot_id now _ tag)) _ tag
  | deployed | death | suicide =>
      cases List.mem_singleton.1 htag
      exact (mentions_acting now m tag _ fun _ => rfl).latch now _ tag
  | playerKick | teamJoin | nameChange | chat | teamChat | adminLogin | adminLogout
  | adminGranted =>
      cases List.mem_singleton.1 htag
      exact mentions_acting now m tag _ fun _ => rfl
  | _ => exact absurd htag List.not_mem_nil

/-- Players in the events of a line are as the model holds them after it, and whomever the line
names is told of. Only the event of someone who leaves tells of a player as the model held them
before, or as the line tells if it held nobody; their id then finds nobody. -/
theorem events_tell_of_players_as_they_are_afterwards {m : Model} {e : Entry} (h : m.Distinct)
    (hafter : (m.apply now e).1.Distinct) :
    (∀ event ∈ (m.apply now e).2, event.kind ≠ .playerPart →
      ∀ p ∈ event.players, (m.apply now e).1.player? p.id = some p) ∧
    (∀ event ∈ (m.apply now e).2, event.kind = .playerPart → ∃ tag, e = .playerExit tag) ∧
    (∀ tag, e = .playerExit tag →
      (m.apply now e).2 = [.playerPart ((m.player? tag.id).getD (.ofTag now tag))] ∧
      (m.apply now e).1.player? tag.id = none) ∧
    ∀ tag ∈ e.tags, Mentions (m.apply now e).2 tag.id := by
  refine ⟨?_, ?_, ?_, m.mentions_apply now e⟩
  · by_cases hexit : ∃ tag, e = .playerExit tag
    · obtain ⟨tag, rfl⟩ := hexit
      intro event hevent hkind
      rw [List.mem_singleton.1 hevent] at hkind
      exact absurd rfl hkind
    · exact fun event hevent _ => m.tells_apply now hafter (not_exists.1 hexit) event hevent
  · intro event hevent hkind
    have hkinds := m.kind_of_mem_apply now e event hevent
    rw [hkind] at hkinds
    cases e <;> simp [Entry.kinds] at hkinds ⊢
  · rintro tag rfl
    exact ⟨rfl, h.player?_remove tag.id⟩

theorem events_tell_of_players_as_they_are_afterwards_when_one_disarms_their_own :
    let m : Model := { players := [.ofTag ⟨0⟩ ⟨.sideA, ⟨3⟩, "Alice", false⟩] }
    let e : Entry := .disarmed ⟨.sideA, ⟨3⟩, "Alice", false⟩ "Beacon"
      (some ⟨.sideB, ⟨3⟩, "Alice", false⟩)
    (m.Distinct ∧ (m.apply ⟨5⟩ e).1.Distinct) ∧
      (∀ event ∈ (m.apply ⟨5⟩ e).2, event.kind ≠ .playerPart →
        ∀ p ∈ event.players, (m.apply ⟨5⟩ e).1.player? p.id = some p) ∧
      ∀ tag ∈ e.tags, Mentions (m.apply ⟨5⟩ e).2 tag.id := by
  intro m e
  have hdistinct : m.Distinct ∧ (m.apply ⟨5⟩ e).1.Distinct := by decide
  obtain ⟨hthere, -, -, hmentioned⟩ :=
    events_tell_of_players_as_they_are_afterwards ⟨5⟩ hdistinct.1 hdistinct.2
  exact ⟨hdistinct, hthere, hmentioned⟩

end Match.Model

end RemoteConsole
