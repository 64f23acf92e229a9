import RemoteConsole.Proofs.Match.Bystanders
import RemoteConsole.Proofs.Match.Ids

namespace RemoteConsole.Match

open GameLog (Entry PlayerTag)

theorem mem_changeFirst_of_find? {α : Type} {p : α → Bool} {f : α → α} {xs : List α} {x : α}
    (h : xs.find? p = some x) : f x ∈ changeFirst p f xs := by
  induction xs with
  | nil => cases h
  | cons y ys ih =>
      rw [changeFirst]
      by_cases hy : p y
      · rw [List.find?_cons_of_pos hy] at h
        cases h
        rw [if_pos hy]
        exact List.mem_cons_self
      · rw [List.find?_cons_of_neg hy] at h
        rw [if_neg hy]
        exact List.mem_cons_of_mem _ (ih h)

theorem mem_welcome {known : List Identity} {id other : PlayerId}
    (h : id ∈ known.map (·.id) ∨ id = other) : id ∈ (welcome known other).map (·.id) := by
  unfold welcome
  split
  · rename_i hknown
    exact h.elim (fun hid => hid) fun hid => hid ▸ hknown
  · rw [List.map_append]
    exact List.mem_append.2 (h.imp_right fun hid => List.mem_singleton.2 hid)

theorem mem_welcomeAll {known : List Identity} {tags : List PlayerTag} {id : PlayerId}
    (h : id ∈ known.map (·.id) ∨ id ∈ tags.map (·.id)) :
    id ∈ (welcomeAll known tags).map (·.id) := by
  unfold welcomeAll
  generalize tags.map (·.id) = ids at h
  induction ids generalizing known with
  | nil => exact h.resolve_right List.not_mem_nil
  | cons other ids ih =>
      rw [List.foldl_cons]
      refine ih ?_
      rcases h with h | h
      · exact .inl (mem_welcome (.inl h))
      · exact (List.mem_cons.1 h).imp_left fun hid => mem_welcome (.inr hid)

namespace Table

variable (t : Table)

def ids : List PlayerId :=
  t.rows.filterMap fun row => (t.playerId? row).map Prod.fst

theorem isSome_column?_of_mem_ids {id : PlayerId} (h : id ∈ t.ids) :
    ¬ ((t.column? "ID").isNone && (t.column? "PlayerID").isNone) := by
  intro hnone
  rw [Bool.and_eq_true, Option.isNone_iff_eq_none, Option.isNone_iff_eq_none] at hnone
  obtain ⟨row, -, hrow⟩ := List.mem_filterMap.1 h
  have hcell {name : String} (h : t.column? name = none) : t.cell? row name = none := by
    rw [cell?, h]
    rfl
  have hid : t.playerId? row = none := by
    rw [playerId?, hcell hnone.1, hcell hnone.2]
    decide
  rw [hid] at hrow
  cases hrow

end Table

namespace Model

variable (now : Instant) (m : Model) {id other : PlayerId} {f : Player → Player}

theorem player?_eq_none_iff : m.player? id = none ↔ id ∉ m.ids := by
  rw [← isSome_player?, Option.not_isSome_iff_eq_none]

theorem find?_bystanders {ids : List PlayerId} (h : id ∉ ids) :
    (m.bystanders ids).find? (·.id == id) = m.player? id := by
  rw [bystanders, List.find?_filter, player?]
  congr 1
  funext p
  by_cases hp : p.id = id
  · simp [hp, h]
  · simp [hp]

theorem Spares.player? {m after : Model} {ids : List PlayerId} (h : m.Spares ids after)
    (hid : id ∉ ids) : after.player? id = m.player? id := by
  rw [← find?_bystanders after hid, h.bystanders, find?_bystanders m hid]

theorem player?_apply_of_not_mem (e : Entry) (h : id ∉ e.ids) :
    (m.apply now e).1.player? id = (m.player? id).map e.onBystander := by
  have hid (p : Player) : (e.onBystander p).id = p.id := by
    cases e <;> rfl
  rw [← find?_bystanders _ h, (m.touches_apply now e).players, List.find?_map]
  have hsame : (fun p : Player => p.id == id) ∘ e.onBystander = (·.id == id) :=
    funext fun p => congrArg (· == id) (hid p)
  rw [hsame, find?_bystanders m h]

theorem player?_add (p : Player) :
    (m.add p).player? id = (m.player? id).or (if p.id = id then some p else none) := by
  rw [player?, add, List.find?_append, List.find?_singleton]
  simp only [player?, beq_iff_eq]

theorem player?_edit_of_keeps (hf : ∀ p, (f p).id = p.id) :
    (m.edit other f).player? id = if id = other then (m.player? id).map f else m.player? id := by
  split
  · subst id
    cases h : m.player? other with
    | some p =>
        refine find?_changeFirst h ?_
        rw [hf, (player?_eq_some_id h).2]
        exact beq_self_eq_true other
    | none =>
        rw [player?_eq_none_iff] at h
        rw [Option.map_none, player?_eq_none_iff, ids_edit m hf]
        exact h
  · rename_i hne
    have hspares := m.spares_edit (List.mem_singleton_self other)
      fun p hp => by rw [hf, hp]; exact List.mem_singleton_self other
    exact hspares.player? (mt List.mem_singleton.1 hne)

theorem player?_remove_of_none (h : m.player? id = none) : (m.remove other).player? id = none := by
  refine List.find?_eq_none.2 fun p hp => ?_
  exact List.find?_eq_none.1 h p (List.mem_of_mem_eraseP hp)

theorem player?_latch (milestone : Milestone) (tag : PlayerTag) (r : Model × List Event) :
    (latch now milestone tag r).1.player? = r.1.player? := by
  rw [latch_model]
  rfl

theorem ids_latch (milestone : Milestone) (tag : PlayerTag) (r : Model × List Event) :
    (latch now milestone tag r).1.ids = r.1.ids := by
  rw [latch_model]
  rfl

theorem mem_ids_touch_of_mem (h : id ∈ m.ids) (tag : PlayerTag) :
    id ∈ (m.touch now tag).ids := by
  unfold touch
  split
  · split
    · exact h
    · rw [ids_edit]
      · exact h
      · exact fun _ => rfl
  · rw [ids_add]
    exact List.mem_append_left _ h

theorem mem_ids_touchOption_of_mem (h : id ∈ m.ids) (tag : Option PlayerTag) :
    id ∈ (m.touchOption now tag).ids := by
  cases tag with
  | none => exact h
  | some tag => exact m.mem_ids_touch_of_mem now h tag

theorem snapshot_id (tag : PlayerTag) : (m.snapshot now tag).id = tag.id := by
  rw [snapshot]
  cases h : m.player? tag.id with
  | none => rfl
  | some p => exact (player?_eq_some_id h).2

section Distinct

variable {m}

theorem player?_snapshot {tag : PlayerTag} (h : tag.id ∈ m.ids) :
    m.player? (m.snapshot now tag).id = some (m.snapshot now tag) := by
  rw [snapshot_id]
  exact player?_of_mem_ids now h

theorem Distinct.player?_of_mem (h : m.Distinct) {p : Player} (hp : p ∈ m.players) :
    m.player? p.id = some p := by
  obtain ⟨q, hq⟩ := Option.isSome_iff_exists.1 ((m.isSome_player? p.id).2 (List.mem_map_of_mem hp))
  obtain ⟨hthere, hid⟩ := player?_eq_some_id hq
  rw [hq, List.inj_on_of_nodup_map h hthere hp hid]

theorem Distinct.player?_remove (h : m.Distinct) (id : PlayerId) :
    (m.remove id).player? id = none := by
  have hids : (m.remove id).ids = m.ids.erase id := by
    rw [← map_id_identities, identities_remove, map_id_eraseP, map_id_identities]
  rw [player?_eq_none_iff, hids]
  exact h.not_mem_erase

end Distinct

section Named

variable {now} {m}

theorem mem_ids_apply {e : Entry} (h : id ∈ e.ids) (hexit : ∀ tag, e ≠ .playerExit tag)
    (hchange : ∀ oldId newId, e ≠ .idChange oldId newId) : id ∈ (m.apply now e).1.ids := by
  rw [← map_id_identities, identities_apply]
  cases e with
  | playerEnter tag ip hardwareId account =>
      rw [List.mem_singleton.1 h, identitiesAfter, List.map_append]
      exact List.mem_append_right _ (List.mem_singleton_self tag.id)
  | playerExit tag => exact absurd rfl (hexit tag)
  | idChange oldId newId => exact absurd rfl (hchange oldId newId)
  | _ => exact mem_welcomeAll (.inr h)

end Named

section Roster

variable {t : Table} {state : Model × List Event} {row : List String}

theorem player?_rosterRow_of_ne (h : (t.playerId? row).map Prod.fst ≠ some id) :
    (rosterRow now t state row).1.player? id = state.1.player? id := by
  obtain ⟨m, events⟩ := state
  unfold rosterRow
  cases hrow : t.playerId? row with
  | none => rfl
  | some cell =>
      obtain ⟨other, isBot⟩ := cell
      have hother : id ∉ [other] := by
        rw [hrow] at h
        exact fun hid => h (congrArg some (List.mem_singleton.1 hid).symm)
      simp only
      split
      · refine (m.spares_edit (List.mem_singleton_self other) fun p hp => ?_).player? hother
        rw [t.updatePlayer_id, hp]
        exact List.mem_singleton_self other
      · refine Spares.player? (m.spares_add ?_) hother
        rw [t.updatePlayer_id]
        exact List.mem_singleton_self other

theorem mem_ids_rosterRow (h : id ∈ state.1.ids ∨ (t.playerId? row).map Prod.fst = some id) :
    id ∈ (rosterRow now t state row).1.ids := by
  by_cases hrow : (t.playerId? row).map Prod.fst = some id
  · obtain ⟨⟨other, isBot⟩, hcell, rfl⟩ := Option.map_eq_some_iff.1 hrow
    unfold rosterRow
    simp only [hcell]
    split
    · rename_i hknown
      rw [ids_edit _ (t.updatePlayer_id row)]
      exact (isSome_player? _ _).1 hknown
    · rw [ids_add, t.updatePlayer_id]
      exact List.mem_append_right _ (List.mem_singleton_self _)
  · rw [← isSome_player?, player?_rosterRow_of_ne now hrow, isSome_player?]
    exact h.resolve_right hrow

theorem mem_ids_rosterRows {rows : List (List String)}
    (h : id ∈ state.1.ids ∨ id ∈ rows.filterMap fun row => (t.playerId? row).map Prod.fst) :
    id ∈ (rows.foldl (rosterRow now t) state).1.ids := by
  induction rows generalizing state with
  | nil => exact h.resolve_right List.not_mem_nil
  | cons row rows ih =>
      rw [List.foldl_cons]
      refine ih ?_
      by_cases hrow : (t.playerId? row).map Prod.fst = some id
      · exact .inl (mem_ids_rosterRow now (.inr hrow))
      · refine h.imp (fun hthere => mem_ids_rosterRow now (.inl hthere)) fun hlater => ?_
        obtain ⟨named, hnamed, hid⟩ := List.mem_filterMap.1 hlater
        rcases List.mem_cons.1 hnamed with rfl | hnamed
        · exact absurd hid hrow
        · exact List.mem_filterMap.2 ⟨named, hnamed, hid⟩

theorem player?_rosterRows_of_not_mem {rows : List (List String)}
    (h : id ∉ rows.filterMap fun row => (t.playerId? row).map Prod.fst) :
    (rows.foldl (rosterRow now t) state).1.player? id = state.1.player? id := by
  induction rows generalizing state with
  | nil => rfl
  | cons row rows ih =>
      have hrow : (t.playerId? row).map Prod.fst ≠ some id :=
        fun hid => h (List.mem_filterMap.2 ⟨row, List.mem_cons_self, hid⟩)
      rw [List.foldl_cons, ih, player?_rosterRow_of_ne now hrow]
      intro hlater
      obtain ⟨named, hnamed, hid⟩ := List.mem_filterMap.1 hlater
      exact h (List.mem_filterMap.2 ⟨named, List.mem_cons_of_mem _ hnamed, hid⟩)

theorem player?_applyRoster_of_mem (h : id ∈ t.ids) :
    (m.applyRoster now t).1.player? id =
      (t.rows.foldl (rosterRow now t) (m, [])).1.player? id := by
  unfold applyRoster
  rw [if_neg (t.isSome_column?_of_mem_ids h)]
  change (List.filter (fun p : Player => t.ids.contains p.id) _).find? _ = _
  rw [List.find?_filter, player?]
  congr 1
  funext p
  by_cases hp : p.id = id
  · simp [hp, h]
  · simp [hp]

theorem player?_applyRoster_of_not_mem (hnone : m.player? id = none) (h : id ∉ t.ids) :
    (m.applyRoster now t).1.player? id = none := by
  have hrows : (t.rows.foldl (rosterRow now t) (m, [])).1.player? id = none := by
    rw [player?_rosterRows_of_not_mem now h]
    exact hnone
  unfold applyRoster
  split
  · exact hnone
  · refine List.find?_eq_none.2 fun p hp => ?_
    exact List.find?_eq_none.1 hrows p (List.mem_of_mem_filter hp)

theorem mem_ids_applyRoster (h : id ∈ t.ids) : id ∈ (m.applyRoster now t).1.ids := by
  rw [← isSome_player?, player?_applyRoster_of_mem now m h, isSome_player?]
  exact mem_ids_rosterRows now (.inr h)

end Roster

end Model

namespace Step

variable {m : Model} {id : PlayerId}

/-- The ids that a step names. Of the tables only rosters name any. -/
def ids : Step → List PlayerId
  | line _ e => e.ids
  | table _ t => if t.verb = "clientvarlist" then t.ids else []
  | roster _ t => t.ids
  | wipe | setTravelling _ => []

theorem player?_run_of_not_mem (h : m.player? id = none) {step : Step} (hid : id ∉ step.ids) :
    (step.run m).player? id = none := by
  cases step with
  | line now e =>
      rw [run, Model.player?_apply_of_not_mem now m e hid, h]
      rfl
  | table now t =>
      by_cases ht : t.verb = "clientvarlist"
      · rw [ids, if_pos ht] at hid
        rw [run, m.applyTable_of_roster now t ht]
        exact m.player?_applyRoster_of_not_mem now h hid
      · rw [run, Model.player?, (m.applyTable_of_not_roster now t ht).1]
        exact h
  | roster now t => exact m.player?_applyRoster_of_not_mem now h hid
  | wipe => rfl
  | setTravelling travelling => exact h

theorem player?_runAll_of_not_mem (h : m.player? id = none) {steps : List Step}
    (hid : ∀ step ∈ steps, id ∉ step.ids) : (runAll m steps).player? id = none := by
  induction steps generalizing m with
  | nil => exact h
  | cons step steps ih =>
      obtain ⟨hstep, hsteps⟩ := List.forall_mem_cons.1 hid
      exact ih (player?_run_of_not_mem h hstep) hsteps

end Step

end RemoteConsole.Match
