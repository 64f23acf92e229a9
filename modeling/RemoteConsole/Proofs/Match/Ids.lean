import Mathlib.Data.List.Induction
import Mathlib.Data.List.Nodup
import RemoteConsole.Proofs.Match.Roster

namespace RemoteConsole.Match

open GameLog (PlayerTag)

theorem nodup_welcome {known : List Identity} (h : (known.map (·.id)).Nodup) (id : PlayerId) :
    ((welcome known id).map (·.id)).Nodup := by
  unfold welcome
  split
  · exact h
  · rename_i hnew
    rw [List.map_append, List.nodup_append]
    refine ⟨h, by simp, fun a ha b hb => ?_⟩
    rw [List.mem_singleton.1 hb]
    rintro rfl
    exact hnew ha

theorem nodup_welcomeAll {known : List Identity} (h : (known.map (·.id)).Nodup)
    (tags : List PlayerTag) : ((welcomeAll known tags).map (·.id)).Nodup := by
  unfold welcomeAll
  generalize tags.map (·.id) = ids
  induction ids generalizing known with
  | nil => exact h
  | cons id ids ih => exact ih (nodup_welcome h id)

theorem map_id_eraseP (known : List Identity) (id : PlayerId) :
    (known.eraseP (·.id == id)).map (·.id) = (known.map (·.id)).erase id := by
  rw [List.erase_eq_eraseP, List.eraseP_map]
  congr 2
  funext i
  exact BEq.comm

theorem nodup_rejoined {known : List Identity} (h : (known.map (·.id)).Nodup) (i : Identity) :
    ((known.eraseP (·.id == i.id) ++ [i]).map (·.id)).Nodup := by
  rw [List.map_append, map_id_eraseP, List.nodup_append]
  refine ⟨h.erase _, by simp, fun a ha b hb => ?_⟩
  rw [List.mem_singleton.1 hb]
  exact fun heq => (List.Nodup.mem_erase_iff h).1 (heq ▸ ha) |>.1 rfl

theorem mem_replaced {oldId newId id : PlayerId} {ids : List PlayerId} (hne : id ≠ oldId) :
    id ∈ changeFirst (· == oldId) (fun _ => newId) ids ↔
      id ∈ ids ∨ id = newId ∧ oldId ∈ ids := by
  induction ids with
  | nil => simp [changeFirst]
  | cons x xs ih =>
      by_cases hx : x = oldId
      · subst hx
        simp [changeFirst, hne, or_comm]
      · simp [changeFirst, hx, ih, Ne.symm hx, or_assoc]

theorem nodup_replaced {ids : List PlayerId} (h : ids.Nodup) (oldId newId : PlayerId) :
    (changeFirst (· == oldId) (fun _ => newId) ids).Nodup ↔
      ¬ (oldId ≠ newId ∧ oldId ∈ ids ∧ newId ∈ ids) := by
  induction ids with
  | nil => simp [changeFirst]
  | cons x xs ih =>
      obtain ⟨hx, hxs⟩ := List.nodup_cons.1 h
      by_cases hold : x = oldId
      · subst hold
        simp only [changeFirst, beq_self_eq_true, if_true, List.nodup_cons, hxs, and_true]
        by_cases hnew : newId = x
        · subst hnew
          simp [hx]
        · simp [hnew, Ne.symm hnew]
      · simp only [changeFirst, beq_iff_eq, hold, if_false, List.nodup_cons, mem_replaced hold,
          ih hxs, List.mem_cons, Ne.symm hold, false_or]
        grind

/-- A line gives a player the id of someone else. -/
def Clashes (m : Model) : GameLog.Entry → Prop
  | .idChange oldId newId => oldId ≠ newId ∧ oldId ∈ m.ids ∧ newId ∈ m.ids
  | _ => False

namespace Model

def Distinct (m : Model) : Prop :=
  m.ids.Nodup

instance : DecidablePred Distinct :=
  fun m => inferInstanceAs (Decidable m.ids.Nodup)

variable {m : Model}

theorem mem_replace_of_ne {p q : Player} (hq : q.id ≠ p.id) :
    q ∈ (m.edit p.id fun _ => p).players ↔ q ∈ m.players := by
  constructor
  · intro hin
    rcases mem_changeFirst hin with hin | ⟨-, -, -, rfl⟩
    · exact hin
    · exact absurd rfl hq
  · exact fun hin => mem_changeFirst_of_not hin (by simpa using hq)

theorem Distinct.eq_of_mem_replace (h : m.Distinct) {p q : Player} (hthere : p.id ∈ m.ids)
    (hq : q ∈ (m.edit p.id fun _ => p).players) (hid : q.id = p.id) : q = p := by
  have hold : ∃ a ∈ m.players, a.id == p.id := by simpa [ids] using hthere
  obtain ⟨-, -, -, hp⟩ := exists_mem_changeFirst (f := fun _ => p) hold
  rw [Distinct, ← m.ids_replace (p := p) rfl] at h
  exact List.inj_on_of_nodup_map h hq hp hid

theorem Distinct.apply_iff (h : m.Distinct) (now : Instant) (e : GameLog.Entry) :
    (m.apply now e).1.Distinct ↔ ¬ Clashes m e := by
  have hknown : (m.identities.map (·.id)).Nodup := by
    rw [map_id_identities]
    exact h
  rw [Distinct, ← map_id_identities, identities_apply]
  cases e with
  | playerEnter tag ip hardwareId account =>
      exact iff_of_true (nodup_rejoined hknown ⟨tag.id, .parse ip, hardwareId, account, .none⟩) id
  | playerExit tag =>
      exact iff_of_true (hknown.sublist (List.eraseP_sublist.map _)) id
  | idChange oldId newId =>
      rw [identitiesAfter, map_changeFirst (g := Identity.id) (q := (· == oldId))
        (h := fun _ => newId) (fun _ => rfl) (fun _ => rfl), map_id_identities]
      exact nodup_replaced h oldId newId
  | _ => exact iff_of_true (nodup_welcomeAll hknown _) id

end Model

inductive Step where
  | line (now : Instant) (e : GameLog.Entry)
  | table (now : Instant) (t : Table)
  | roster (now : Instant) (t : Table)
  | wipe
  | setTravelling (travelling : Bool)

namespace Step

def run (m : Model) : Step → Model
  | line now e => (m.apply now e).1
  | table now t => (m.applyTable now t).1
  | roster now t => (m.applyRoster now t).1
  | wipe => m.wipe
  | setTravelling travelling => m.setTravelling travelling

def runAll (m : Model) (steps : List Step) : Model :=
  steps.foldl run m

def Clashes (m : Model) : Step → Prop
  | line _ e => Match.Clashes m e
  | _ => False

end Step

variable {m : Model}

theorem Model.Distinct.run_iff (h : m.Distinct) (step : Step) :
    (step.run m).Distinct ↔ ¬ step.Clashes m := by
  cases step with
  | line now e => exact h.apply_iff now e
  | table now t => exact iff_of_true ((m.refreshes_applyTable now t).distinct h) id
  | roster now t => exact iff_of_true ((m.refreshes_applyRoster now t).distinct h) id
  | wipe => exact iff_of_true List.nodup_nil id
  | setTravelling travelling => exact iff_of_true h id

/-- What one step keeps, unless it breaks it, holds throughout exactly if no step breaks it. -/
theorem holds_throughout_iff {σ α : Type} {step : σ → α → σ} (Holds : σ → Prop)
    (Breaks : σ → α → Prop) {start : σ} {as : List α} (hstart : Holds start)
    (hstep : ∀ before a, before ++ [a] <+: as → Holds (before.foldl step start) →
      (Holds (step (before.foldl step start) a) ↔ ¬ Breaks (before.foldl step start) a)) :
    (∀ before, before <+: as → Holds (before.foldl step start)) ↔
      ∀ before a, before ++ [a] <+: as → ¬ Breaks (before.foldl step start) a := by
  constructor
  · intro h before a hbefore
    have hafter := h (before ++ [a]) hbefore
    rw [List.foldl_append] at hafter
    exact (hstep before a hbefore (h before ((List.prefix_append _ _).trans hbefore))).1 hafter
  · intro h before
    induction before using List.reverseRecOn with
    | nil => exact fun _ => hstart
    | append_singleton before a ih =>
        intro hbefore
        rw [List.foldl_append]
        exact (hstep before a hbefore (ih ((List.prefix_append _ _).trans hbefore))).2
          (h before a hbefore)

/-- From a model without players on, an id names one player only all the time, exactly if no line
ever gives a player the id of someone else who is connected. -/
theorem ids_are_unique_iff_none_is_given_twice (steps : List Step) :
    (∀ before, before <+: steps → (Step.runAll {} before).Distinct) ↔
      ∀ before step, before ++ [step] <+: steps → ¬ step.Clashes (Step.runAll {} before) := by
  have hempty : Model.Distinct {} := List.nodup_nil
  exact holds_throughout_iff Model.Distinct (fun m (step : Step) => step.Clashes m) hempty
    fun _ step _ h => h.run_iff step

/-- Two players join, and the first is given the id of the second. -/
theorem an_id_can_be_given_twice :
    ¬ (Step.runAll {} [
        .line ⟨0⟩ (.playerEnter ⟨.sideA, ⟨3⟩, "Alice", false⟩ "10.0.0.1" "" 0),
        .line ⟨0⟩ (.playerEnter ⟨.sideB, ⟨4⟩, "Bob", false⟩ "10.0.0.2" "" 0),
        .line ⟨0⟩ (.idChange ⟨3⟩ ⟨4⟩)]).Distinct := by
  decide

end RemoteConsole.Match
