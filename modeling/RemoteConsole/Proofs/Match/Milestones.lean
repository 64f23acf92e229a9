import RemoteConsole.Proofs.Match.Ids
import RemoteConsole.Proofs.Match.Lookups

namespace RemoteConsole

open GameLog (Entry PlayerTag)
open Match (Player)

namespace Milestone

/-- Who reaches a milestone by a line, unless somebody has done so before in the match. -/
def achiever? : Milestone → Entry → Option PlayerTag
  | .firstKill, .kill killer _ _ => some killer
  | .firstDeath, .kill _ victim _ | .firstDeath, .death victim _ _
  | .firstDeath, .suicide victim _ => some victim
  | .firstAction, .kill killer _ _ => some killer
  | .firstAction, .destroyed _ _ killer _ _ => killer
  | .firstAction, .captured tag _ _ | .firstAction, .neutralized tag _ _
  | .firstAction, .deployed tag _ | .firstAction, .disarmed tag _ _ => some tag
  | _, _ => none

/-- Whom events announce as the one who reached the milestone. -/
def announced (milestone : Milestone) (events : List Event) : List Player :=
  events.filterMap fun
    | .milestone reached p => if reached = milestone then some p else none
    | _ => none

@[simp] theorem announced_append (milestone : Milestone) (events more : List Event) :
    milestone.announced (events ++ more) = milestone.announced events ++ milestone.announced more :=
  List.filterMap_append

end Milestone

namespace Match

@[simp] theorem Reached.get_mark (r : Reached) (reached milestone : Milestone) :
    (r.mark reached).get milestone = (r.get milestone || reached == milestone) := by
  cases reached <;> cases milestone <;> simp [mark, get]

namespace Model

variable (now : Instant) (m : Model)

theorem reached_touch (tag : PlayerTag) : (m.touch now tag).reached = m.reached := by
  unfold touch
  split
  · split <;> rfl
  · rfl

theorem reached_touchOption (tag : Option PlayerTag) :
    (m.touchOption now tag).reached = m.reached := by
  cases tag with
  | none => rfl
  | some tag => exact m.reached_touch now tag

/-- From `m` on, `who` has reached the milestones that nobody had reached before: that is what the
events announce, and what is remembered. -/
structure Achieves (who : Milestone → Option PlayerTag) (r : Model × List Event) : Prop where
  announced : ∀ milestone : Milestone, milestone.announced r.2 =
    if m.reached.get milestone then []
    else ((who milestone).bind fun tag => r.1.player? tag.id).toList
  reached : ∀ milestone, r.1.reached.get milestone =
    (m.reached.get milestone || (who milestone).isSome)
  there : ∀ milestone, ∀ tag ∈ who milestone, tag.id ∈ r.1.ids

namespace Achieves

variable {m} {who : Milestone → Option PlayerTag} {r : Model × List Event}

theorem of_nobody (hreached : r.1.reached = m.reached)
    (hannounced : ∀ milestone : Milestone, milestone.announced r.2 = [])
    (hwho : ∀ milestone, who milestone = none) : m.Achieves who r where
  announced milestone := by simp [hannounced, hwho]
  reached milestone := by simp [hreached, hwho]
  there milestone _ h := absurd h (by simp [hwho])

theorem latch (h : m.Achieves who r) {milestone : Milestone} (hopen : who milestone = none)
    {tag : PlayerTag} (htag : tag.id ∈ r.1.ids) :
    m.Achieves (Function.update who milestone tag) (Model.latch now milestone tag r) := by
  have hsame : r.1.reached.get milestone = m.reached.get milestone := by
    simp [h.reached milestone, hopen]
  refine ⟨fun other => ?_, fun other => ?_, fun other t ht => ?_⟩
  · have hevents : (Model.latch now milestone tag r).2 =
        if m.reached.get milestone then r.2
        else r.2 ++ [.milestone milestone (r.1.snapshot now tag)] := by
      rw [Model.latch, hsame]
      split <;> rfl
    rw [player?_latch, hevents]
    by_cases hother : other = milestone
    · subst hother
      split
      · rw [h.announced, if_pos ‹_›]
      · have hnobody : other.announced r.2 = [] := by simp [h.announced, hopen]
        rw [Milestone.announced_append, hnobody]
        simp [Milestone.announced, player?_of_mem_ids now htag]
    · have hnobody : other.announced [.milestone milestone (r.1.snapshot now tag)] = [] := by
        simp [Milestone.announced, Ne.symm hother]
      rw [Function.update_of_ne hother, ← h.announced other]
      split
      · rfl
      · rw [Milestone.announced_append, hnobody, List.append_nil]
  · have hmodel : (Model.latch now milestone tag r).1.reached =
        if m.reached.get milestone then r.1.reached else r.1.reached.mark milestone := by
      rw [Model.latch, hsame]
      split <;> rfl
    rw [hmodel]
    by_cases hother : other = milestone
    · subst hother
      split <;> simp_all
    · rw [Function.update_of_ne hother, ← h.reached other]
      split
      · rfl
      · simp [Ne.symm hother]
  · rw [ids_latch]
    by_cases hother : other = milestone
    · subst hother
      rw [Function.update_self, Option.mem_some_iff] at ht
      rwa [← ht]
    · rw [Function.update_of_ne hother] at ht
      exact h.there other t ht

end Achieves

variable {m}

theorem Achieves.of_one {r : Model × List Event} {tag : PlayerTag} {milestone : Milestone}
    {who : Milestone → Option PlayerTag} (hreached : r.1.reached = m.reached)
    (hannounced : ∀ milestone : Milestone, milestone.announced r.2 = []) (htag : tag.id ∈ r.1.ids)
    (hwho : ∀ other, who other = Function.update (fun _ => none) milestone (some tag) other) :
    m.Achieves who (Model.latch now milestone tag r) := by
  rw [funext hwho]
  exact (of_nobody hreached hannounced fun _ => rfl).latch now rfl htag

variable (m)

theorem achieves_kill (killer victim : PlayerTag) (damage : String) :
    m.Achieves (fun milestone => milestone.achiever? (.kill killer victim damage))
      (m.kill now killer victim damage) := by
  generalize hbase : (((m.touch now killer).touch now victim).edit killer.id fun p =>
    { p with
      kills := p.kills + 1
      headshots := p.headshots + if Text.contains damage "Headshot" then 1 else 0 }).edit victim.id
        (fun p => { p with deaths := p.deaths + 1 }) = base
  have hreached : base.reached = m.reached := by
    rw [← hbase]
    exact ((m.touch now killer).reached_touch now victim).trans (m.reached_touch now killer)
  have hids : base.ids = ((m.touch now killer).touch now victim).ids := by
    rw [← hbase, ids_edit, ids_edit] <;> exact fun _ => rfl
  have hkiller : killer.id ∈ base.ids := by
    rw [hids]
    exact mem_ids_touch_of_mem now _ (m.mem_ids_touch now killer) victim
  have hvictim : victim.id ∈ base.ids := by
    rw [hids]
    exact mem_ids_touch now _ victim
  have hnobody : m.Achieves (fun _ => none)
      (base, [.kill (base.snapshot now killer) (base.snapshot now victim) damage]) :=
    .of_nobody hreached (fun _ => rfl) fun _ => rfl
  -- all three milestones may be reached at once, and by two players
  unfold kill
  dsimp only
  rw [hbase]
  convert ((hnobody.latch now ?_ hkiller).latch now ?_ ?_).latch now ?_ ?_ using 1
  · funext milestone
    cases milestone <;> rfl
  · rfl
  · rfl
  · rwa [ids_latch]
  · rfl
  · rwa [ids_latch, ids_latch]

theorem achieves_deployed (tag : PlayerTag) (object : String) :
    m.Achieves (fun milestone => milestone.achiever? (.deployed tag object))
      (m.deployed now tag object) := by
  unfold deployed
  refine .of_one now ?_ ?_ ?_ ?_
  · exact m.reached_touch now tag
  · exact fun _ => rfl
  · refine m.mem_ids_acting now tag (fun p => ?_) _
    split
    · rfl
    · split <;> rfl
  · exact fun milestone => by cases milestone <;> rfl

theorem achieves_disarmed (tag : PlayerTag) (object : String) (owner : Option PlayerTag) :
    m.Achieves (fun milestone => milestone.achiever? (.disarmed tag object owner))
      (m.disarmed now tag object owner) := by
  unfold disarmed
  refine .of_one now ?_ ?_ ?_ ?_
  · exact (reached_touchOption now _ owner).trans (m.reached_touch now tag)
  · exact fun _ => rfl
  · refine mem_ids_touchOption_of_mem now _ ?_ owner
    rw [ids_edit]
    · exact m.mem_ids_touch now tag
    · intro p
      cases isBeacon object <;> cases isMine object <;> rfl
  · exact fun milestone => by cases milestone <;> rfl

theorem achieves_destroyed (kind : GameLog.ObjectKind) (object : String) (killer : Option PlayerTag)
    (killerName damage : String) :
    m.Achieves (fun milestone =>
        milestone.achiever? (.destroyed kind object killer killerName damage))
      (m.destroyed now kind object killer killerName damage) := by
  unfold destroyed
  generalize hstruck : (if kind = .building then
    m.editBuilding object ({ · with destroyed := true, health := 0, armor := 0 }) else m) = struck
  have hreached : struck.reached = m.reached := by
    rw [← hstruck]
    split <;> rfl
  cases killer with
  | none =>
      refine .of_nobody hreached ?_ ?_
      · exact fun _ => rfl
      · exact fun milestone => by cases milestone <;> rfl
  | some tag =>
      refine .of_one now ?_ ?_ ?_ ?_
      · exact (struck.reached_touch now tag).trans hreached
      · exact fun _ => rfl
      · refine struck.mem_ids_acting now tag (fun p => ?_) _
        cases kind <;> rfl
      · exact fun milestone => by cases milestone <;> rfl

/-- Every line but those that begin a match lets those reach milestones who are due. -/
theorem achieves_apply {e : Entry} (hstart : ∀ map, e ≠ .matchStart map)
    (hmap : ∀ map, e ≠ .mapStart map) :
    m.Achieves (fun milestone => milestone.achiever? e) (m.apply now e) := by
  cases e with
  | kill killer victim damage => exact m.achieves_kill now killer victim damage
  | destroyed kind object killer killerName damage =>
      exact m.achieves_destroyed now kind object killer killerName damage
  | deployed tag object => exact m.achieves_deployed now tag object
  | disarmed tag object owner => exact m.achieves_disarmed now tag object owner
  | death tag | suicide tag | captured tag | neutralized tag =>
      simp only [apply, captured, neutralized]
      refine .of_one now ?_ ?_ ?_ ?_
      · exact m.reached_touch now tag
      · exact fun _ => rfl
      · refine (ids_edit _ ?_).symm ▸ m.mem_ids_touch now tag
        exact fun _ => rfl
      · exact fun milestone => by cases milestone <;> rfl
  | playerKick tag | teamJoin tag | nameChange tag | chat tag | teamChat tag | adminLogin tag
  | adminLogout tag | adminGranted tag =>
      refine .of_nobody (m.reached_touch now tag) ?_ ?_
      · exact fun _ => rfl
      · exact fun milestone => by cases milestone <;> rfl
  | voteCalled team topic tag params =>
      refine .of_nobody (m.reached_touchOption now tag) ?_ ?_
      · exact fun _ => rfl
      · exact fun milestone => by cases milestone <;> rfl
  | idChange oldId newId =>
      have hsame : (m.changeId oldId newId).1.reached = m.reached ∧
          ∀ milestone : Milestone, milestone.announced (m.changeId oldId newId).2 = [] := by
        unfold changeId
        split <;> exact ⟨rfl, fun _ => rfl⟩
      refine .of_nobody hsame.1 hsame.2 ?_
      exact fun milestone => by cases milestone <;> rfl
  | matchStart map => exact absurd rfl (hstart map)
  | mapStart map => exact absurd rfl (hmap map)
  | _ =>
      refine .of_nobody rfl ?_ ?_
      · exact fun _ => rfl
      · exact fun milestone => by cases milestone <;> rfl

theorem reached_rows (t : Table) (rows : List (List String)) (r : Model × List Event) :
    (rows.foldl (rosterRow now t) r).1.reached = r.1.reached := by
  induction rows generalizing r with
  | nil => rfl
  | cons row rows ih =>
      rw [List.foldl_cons, ih]
      unfold rosterRow
      dsimp only
      split
      · rfl
      · split <;> rfl

theorem announced_of_discovered {events : List Event}
    (h : ∀ e ∈ events, ∃ p, e = .playerDiscovered p) (milestone : Milestone) :
    milestone.announced events = [] := by
  refine List.filterMap_eq_nil_iff.2 fun e he => ?_
  obtain ⟨p, rfl⟩ := h e he
  rfl

theorem achieves_applyRoster (t : Table) {who : Milestone → Option PlayerTag}
    (hwho : ∀ milestone, who milestone = none) : m.Achieves who (m.applyRoster now t) := by
  unfold applyRoster
  split
  · exact .of_nobody rfl (fun _ => rfl) hwho
  · exact .of_nobody (reached_rows now t t.rows (m, []))
      (announced_of_discovered (discovers_roster now m t).discovered) hwho

theorem achieves_applyTable (t : Table) {who : Milestone → Option PlayerTag}
    (hwho : ∀ milestone, who milestone = none) : m.Achieves who (m.applyTable now t) := by
  have htold {f : Model → String → Model} (hf : ∀ m v, (f m v).reached = m.reached)
      (cell : Option String) (m : Model) : (told cell f m).reached = m.reached :=
    told_keeps Model.reached hf cell m
  unfold applyTable
  split
  · exact m.achieves_applyRoster now t hwho
  · exact .of_nobody rfl (fun _ => rfl) hwho
  · refine .of_nobody ?_ (fun _ => rfl) hwho
    unfold applyInfo
    split
    · rfl
    · rw [htold, htold]
      · intro m v
        split <;> rfl
      · exact fun _ _ => rfl
  · refine .of_nobody ?_ (fun _ => rfl) hwho
    unfold applyRotation
    dsimp only
    split <;> rfl
  · exact .of_nobody rfl (fun _ => rfl) hwho

end Model

namespace Step

def events (m : Model) : Step → List Event
  | line now e => (m.apply now e).2
  | table now t => (m.applyTable now t).2
  | roster now t => (m.applyRoster now t).2
  | wipe | setTravelling _ => []

def eventsOfAll (m : Model) : List Step → List Event
  | [] => []
  | step :: steps => step.events m ++ eventsOfAll (step.run m) steps

/-- From here on nobody has reached a milestone: a match starts, or its map. -/
def resets : Step → Bool
  | line _ (.matchStart _) | line _ (.mapStart _) => true
  | _ => false

def achiever? (milestone : Milestone) : Step → Option PlayerTag
  | line _ e => milestone.achiever? e
  | _ => none

theorem achieves_run {step : Step} (h : step.resets = false) (m : Model) :
    m.Achieves (fun milestone => step.achiever? milestone) (step.run m, step.events m) := by
  cases step with
  | line now e =>
      change m.Achieves (fun milestone => milestone.achiever? e) (m.apply now e)
      refine m.achieves_apply now ?_ ?_
      · rintro map rfl
        cases h
      · rintro map rfl
        cases h
  | table now t =>
      rw [run, events, Prod.eta]
      exact m.achieves_applyTable now t fun _ => rfl
  | roster now t =>
      rw [run, events, Prod.eta]
      exact m.achieves_applyRoster now t fun _ => rfl
  | wipe | setTravelling => exact .of_nobody rfl (fun _ => rfl) fun _ => rfl

theorem run_of_resets {step : Step} (h : step.resets = true) (m : Model) (milestone : Milestone) :
    (step.run m).reached.get milestone = false ∧ milestone.announced (step.events m) = [] ∧
      step.achiever? milestone = none := by
  unfold resets at h
  split at h
  · cases milestone <;> exact ⟨rfl, rfl, rfl⟩
  · cases milestone <;> exact ⟨rfl, rfl, rfl⟩
  · cases h

end Step

/-- A part of a run between two resets: it begins with one, or where the run begins. -/
structure Stretch (before stretch : List Step) : Prop where
  begins : before = [] ∨ ∃ first ∈ stretch.head?, first.resets
  unbroken : ∀ step ∈ stretch.tail, step.resets = false

/-- How a milestone is reached while `steps` are run from `m` on, if nobody has reached it before:
not at all if no line counts for it, else by the first that does, and only then. -/
inductive ReachedOnce (milestone : Milestone) (m : Model) (steps : List Step) : Prop where
  | byNobody
      (calm : ∀ step ∈ steps, step.achiever? milestone = none)
      (announced : milestone.announced (Step.eventsOfAll m steps) = [])
      (reached : (Step.runAll m steps).reached.get milestone = false)
  | byFirst (before behind : List Step) (now : Instant) (e : Entry) (tag : PlayerTag) (p : Player)
      (split : steps = before ++ .line now e :: behind)
      (calm : ∀ step ∈ before, step.achiever? milestone = none)
      (achiever : milestone.achiever? e = some tag)
      (there : ((Step.runAll m before).apply now e).1.player? tag.id = some p)
      (announcedBefore : milestone.announced (Step.eventsOfAll m before) = [])
      (announced : milestone.announced ((Step.runAll m before).apply now e).2 = [p])
      (announcedBehind : milestone.announced
        (Step.eventsOfAll ((Step.runAll m before).apply now e).1 behind) = [])
      (reached : (Step.runAll m steps).reached.get milestone = true)

namespace ReachedOnce

variable {milestone : Milestone} {m : Model} {steps : List Step}

/-- Nothing more happens to a milestone that has been reached. -/
theorem settled (hreached : m.reached.get milestone = true)
    (hunbroken : ∀ step ∈ steps, step.resets = false) :
    milestone.announced (Step.eventsOfAll m steps) = [] ∧
      (Step.runAll m steps).reached.get milestone = true := by
  induction steps generalizing m with
  | nil => exact ⟨rfl, hreached⟩
  | cons step steps ih =>
      obtain ⟨hfirst, hrest⟩ := List.forall_mem_cons.1 hunbroken
      have hstep := Step.achieves_run hfirst m
      have hkept : (step.run m).reached.get milestone = true := by
        simp [hstep.reached milestone, hreached]
      obtain ⟨hannounced, hafter⟩ := ih hkept hrest
      refine ⟨?_, hafter⟩
      rw [Step.eventsOfAll, Milestone.announced_append, hannounced, hstep.announced milestone,
        if_pos hreached]
      rfl

theorem cons_calm {step : Step} (hcalm : step.achiever? milestone = none)
    (hannounced : milestone.announced (step.events m) = [])
    (h : ReachedOnce milestone (step.run m) steps) : ReachedOnce milestone m (step :: steps) := by
  cases h with
  | byNobody calm announced reached =>
      refine .byNobody (List.forall_mem_cons.2 ⟨hcalm, calm⟩) ?_ reached
      rw [Step.eventsOfAll, Milestone.announced_append, hannounced, announced, List.append_nil]
  | byFirst before behind now e tag p split calm achiever there announcedBefore announced
      announcedBehind reached =>
      refine .byFirst (step :: before) behind now e tag p (congrArg _ split)
        (List.forall_mem_cons.2 ⟨hcalm, calm⟩) achiever there ?_ announced announcedBehind reached
      rw [Step.eventsOfAll, Milestone.announced_append, hannounced, announcedBefore,
        List.append_nil]

theorem of_unbroken (hnew : m.reached.get milestone = false)
    (hunbroken : ∀ step ∈ steps, step.resets = false) : ReachedOnce milestone m steps := by
  induction steps generalizing m with
  | nil => exact .byNobody (fun _ h => absurd h List.not_mem_nil) rfl hnew
  | cons step steps ih =>
      obtain ⟨hfirst, hrest⟩ := List.forall_mem_cons.1 hunbroken
      have hstep := Step.achieves_run hfirst m
      have hannounced := hstep.announced milestone
      have hreached := hstep.reached milestone
      have hthere := hstep.there milestone
      rw [hnew] at hannounced hreached
      cases hachiever : step.achiever? milestone with
      | none =>
          rw [hachiever] at hannounced hreached
          exact cons_calm hachiever hannounced (ih hreached hrest)
      | some tag =>
          rw [hachiever] at hannounced hreached hthere
          obtain ⟨hbehind, hafter⟩ := settled hreached hrest
          obtain ⟨p, hp⟩ := Option.isSome_iff_exists.1
            (((step.run m).isSome_player? tag.id).2 (hthere tag rfl))
          cases step with
          | line now e =>
              refine .byFirst [] steps now e tag p rfl (fun _ h => absurd h List.not_mem_nil)
                hachiever hp rfl ?_ hbehind hafter
              change milestone.announced ((Step.line now e).events m) = [p]
              rw [hannounced]
              simp [hp]
          | table | roster | wipe | setTravelling => cases hachiever

end ReachedOnce

/-- Between two resets of the milestones each of them is announced at most once: by the first line
that counts for it, for the player who did it. It counts as reached exactly if it was. -/
theorem milestones_are_reached_once_a_match {before stretch : List Step}
    (h : Stretch before stretch) (milestone : Milestone) :
    ReachedOnce milestone (Step.runAll {} before) stretch := by
  cases stretch with
  | nil =>
      rcases h.begins with rfl | ⟨first, hfirst, -⟩
      · exact .of_unbroken (by cases milestone <;> rfl) fun _ h => absurd h List.not_mem_nil
      · cases hfirst
  | cons first rest =>
      cases hreset : first.resets with
      | true =>
          obtain ⟨hreached, hannounced, hcalm⟩ :=
            Step.run_of_resets hreset (Step.runAll {} before) milestone
          exact .cons_calm hcalm hannounced (.of_unbroken hreached h.unbroken)
      | false =>
          rcases h.begins with rfl | ⟨head, hsame, hfirst⟩
          · refine .of_unbroken (by cases milestone <;> rfl) (List.forall_mem_cons.2 ⟨hreset, ?_⟩)
            exact h.unbroken
          · rw [Option.mem_some_iff.1 hsame] at hreset
            rw [hreset] at hfirst
            cases hfirst

theorem milestones_are_reached_once_a_match_with_a_kill_before :
    Stretch [.line ⟨0⟩ (.kill ⟨.sideA, ⟨3⟩, "Alice", false⟩ ⟨.sideB, ⟨4⟩, "Bob", false⟩ "Pistol")]
        [.line ⟨1⟩ (.mapStart "Islands"), .wipe,
          .line ⟨2⟩ (.kill ⟨.sideB, ⟨4⟩, "Bob", false⟩ ⟨.sideA, ⟨3⟩, "Alice", false⟩ "Mine"),
          .line ⟨3⟩ (.kill ⟨.sideA, ⟨3⟩, "Alice", false⟩ ⟨.sideB, ⟨4⟩, "Bob", false⟩ "Pistol")] ∧
      ReachedOnce .firstDeath
        (Step.runAll {}
          [.line ⟨0⟩
            (.kill ⟨.sideA, ⟨3⟩, "Alice", false⟩ ⟨.sideB, ⟨4⟩, "Bob", false⟩ "Pistol")])
        [.line ⟨1⟩ (.mapStart "Islands"), .wipe,
          .line ⟨2⟩ (.kill ⟨.sideB, ⟨4⟩, "Bob", false⟩ ⟨.sideA, ⟨3⟩, "Alice", false⟩ "Mine"),
          .line ⟨3⟩
            (.kill ⟨.sideA, ⟨3⟩, "Alice", false⟩ ⟨.sideB, ⟨4⟩, "Bob", false⟩ "Pistol")] := by
  have hstretch : Stretch
      [.line ⟨0⟩ (.kill ⟨.sideA, ⟨3⟩, "Alice", false⟩ ⟨.sideB, ⟨4⟩, "Bob", false⟩ "Pistol")]
      [.line ⟨1⟩ (.mapStart "Islands"), .wipe,
        .line ⟨2⟩ (.kill ⟨.sideB, ⟨4⟩, "Bob", false⟩ ⟨.sideA, ⟨3⟩, "Alice", false⟩ "Mine"),
        .line ⟨3⟩ (.kill ⟨.sideA, ⟨3⟩, "Alice", false⟩ ⟨.sideB, ⟨4⟩, "Bob", false⟩ "Pistol")] :=
    ⟨.inr ⟨_, rfl, rfl⟩, by decide⟩
  exact ⟨hstretch, milestones_are_reached_once_a_match hstretch .firstDeath⟩

end Match

end RemoteConsole
