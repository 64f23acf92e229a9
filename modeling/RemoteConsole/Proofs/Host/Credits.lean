import RemoteConsole.Proofs.Host.Staying
import RemoteConsole.Proofs.Store.Holding

namespace RemoteConsole.Scene

open Ladder (Standings)
open Match (Model Player)

def Step.Starts (step : Step) : Prop :=
  ∃ map, step.logged? = some (.matchStart map)

/-- Who is connected, by numbers: a player keeps theirs for as long as they stay, and it is never
given to anyone else. -/
structure Roll where
  scene : Scene
  numbers : List Nat
  next : Nat

namespace Roll

def start (sc : Scene) : Roll where
  scene := sc
  numbers := List.range sc.session.model.players.length
  next := sc.session.model.players.length

variable (r : Roll)

def step (turn : Moment × Step) : Roll :=
  let after := turn.2.run turn.1 r.scene
  let stayed := turn.2.staying turn.1 r.scene r.numbers
  let came := after.session.model.players.length - stayed.length
  { scene := after, numbers := stayed ++ List.range' r.next came, next := r.next + came }

def course (turns : List (Moment × Step)) : Roll :=
  turns.foldl step r

/-- To whom a step credits a match, with their numbers: where a line says that a match is over, the
ladder takes in everyone who qualifies. -/
def credited (turn : Moment × Step) : List (Player × Nat) :=
  if turn.2.outcome?.isSome && r.scene.session.settings.ladder && r.scene.host.ladder.isSome then
    (r.scene.session.model.players.zip r.numbers).filter fun place => Standings.qualifies place.1
  else []

/-- The numbers of those to whom each of the steps credits a match. -/
def credits (r : Roll) : List (Moment × Step) → List (List Nat)
  | [] => []
  | turn :: turns => (r.credited turn).map Prod.snd :: (r.step turn).credits turns

structure Finds (turn : Moment × Step) (n : Nat) : Prop where
  ends : turn.2.outcome?.isSome
  keeps : r.scene.session.settings.ladder ∧ r.scene.host.ladder.isSome
  qualifies : ∃ p, (p, n) ∈ r.scene.session.model.players.zip r.numbers ∧ Standings.qualifies p

structure Sound : Prop where
  length : r.numbers.length = r.scene.session.model.players.length
  nodup : r.numbers.Nodup
  given : ∀ n ∈ r.numbers, n < r.next

variable {r}

theorem sound_start (sc : Scene) : (start sc).Sound where
  length := List.length_range
  nodup := List.nodup_range
  given _ := List.mem_range.1

theorem Sound.step (h : r.Sound) (turn : Moment × Step) : (r.step turn).Sound := by
  obtain ⟨t, step⟩ := turn
  have hstayed := step.staying_sublist t r.scene (Nat.le_of_eq h.length)
  have hgiven {n : Nat} (hn : n ∈ step.staying t r.scene r.numbers) : n < r.next :=
    h.given n (hstayed.subset hn)
  -- who stays does not depend on the labels, so there are as many numbers as times of joining
  have hlength : (step.staying t r.scene r.numbers).length ≤
      (step.run t r.scene).session.model.players.length := by
    obtain ⟨came, hdates⟩ := r.scene.grows_run t step
    have hdated : r.numbers.length = r.scene.session.model.dates.length := by
      rw [h.length, Model.dates, List.length_map]
    have hsame := step.length_staying t r.scene hdated
    have hafter := congrArg List.length hdates
    rw [List.length_append, Model.dates, List.length_map] at hafter
    omega
  refine ⟨?_, ?_, ?_⟩
  · simp only [Roll.step, List.length_append, List.length_range']
    omega
  · refine List.nodup_append.2 ⟨h.nodup.sublist hstayed, List.nodup_range', ?_⟩
    intro n hn other hother
    have := hgiven hn
    rw [List.mem_range'_1] at hother
    omega
  · intro n hn
    simp only [Roll.step, List.mem_append, List.mem_range'_1] at hn ⊢
    rcases hn with hn | hn
    · exact Nat.lt_add_right _ (hgiven hn)
    · exact hn.2

theorem Sound.course (h : r.Sound) (turns : List (Moment × Step)) : (r.course turns).Sound := by
  induction turns generalizing r with
  | nil => exact h
  | cons turn turns ih => exact ih (h.step turn)

theorem scene_course (turns : List (Moment × Step)) :
    (r.course turns).scene = r.scene.course turns := by
  induction turns generalizing r with
  | nil => rfl
  | cons turn turns ih => exact ih

theorem course_append (turns more : List (Moment × Step)) :
    r.course (turns ++ more) = (r.course turns).course more :=
  List.foldl_append

theorem mem_credited_iff {turn : Moment × Step} {n : Nat} :
    n ∈ (r.credited turn).map Prod.snd ↔ r.Finds turn n := by
  unfold credited
  split
  · rename_i hon
    rw [Bool.and_eq_true, Bool.and_eq_true] at hon
    constructor
    · intro hn
      obtain ⟨⟨p, n⟩, hplace, rfl⟩ := List.mem_map.1 hn
      obtain ⟨hthere, hqualifies⟩ := List.mem_filter.1 hplace
      exact ⟨hon.1.1, ⟨hon.1.2, hon.2⟩, p, hthere, hqualifies⟩
    · rintro ⟨-, -, p, hthere, hqualifies⟩
      exact List.mem_map.2 ⟨(p, n), List.mem_filter.2 ⟨hthere, hqualifies⟩, rfl⟩
  · rename_i hoff
    refine iff_of_false List.not_mem_nil fun h => hoff ?_
    rw [h.ends, h.keeps.1, h.keeps.2]
    rfl

theorem Sound.nodup_credited (h : r.Sound) (turn : Moment × Step) :
    ((r.credited turn).map Prod.snd).Nodup := by
  unfold credited
  split
  · exact h.nodup.sublist (Match.labelsOf_sublist _ _ (Nat.le_of_eq h.length))
  · exact List.nodup_nil

theorem Sound.nodup_credits (h : r.Sound) (turns : List (Moment × Step)) :
    ∀ numbers ∈ r.credits turns, numbers.Nodup := by
  induction turns generalizing r with
  | nil => exact fun _ hnumbers => absurd hnumbers List.not_mem_nil
  | cons turn turns ih =>
      exact List.forall_mem_cons.2 ⟨h.nodup_credited turn, ih (h.step turn)⟩

theorem mem_credits_iff {numbers : List Nat} {turns : List (Moment × Step)} :
    numbers ∈ r.credits turns ↔ ∃ between last, between ++ [last] <+: turns ∧
      ((r.course between).credited last).map Prod.snd = numbers := by
  induction turns generalizing r with
  | nil => simp [credits]
  | cons turn turns ih =>
      rw [credits, List.mem_cons, ih]
      constructor
      · rintro (rfl | ⟨between, last, hprefix, hlast⟩)
        · exact ⟨[], turn, List.prefix_append [turn] turns, rfl⟩
        · exact ⟨turn :: between, last, (List.prefix_cons_inj turn).2 hprefix, hlast⟩
      · rintro ⟨between, last, hprefix, hlast⟩
        cases between with
        | nil =>
            rw [List.nil_append, List.cons_prefix_cons] at hprefix
            obtain ⟨rfl, -⟩ := hprefix
            exact .inl hlast.symm
        | cons first between =>
            rw [List.cons_append, List.cons_prefix_cons] at hprefix
            obtain ⟨rfl, hprefix⟩ := hprefix
            exact .inr ⟨between, last, hprefix, hlast⟩

/-- Nobody is credited twice exactly if no two ends of a match find the same. -/
theorem Sound.nodup_flatten_credits_iff (h : r.Sound) (turns : List (Moment × Step)) :
    (r.credits turns).flatten.Nodup ↔ ∀ before first between last,
      before ++ first :: (between ++ [last]) <+: turns →
        ∀ n, ¬ ((r.course before).Finds first n ∧
          (r.course (before ++ first :: between)).Finds last n) := by
  rw [List.nodup_flatten, and_iff_right (h.nodup_credits turns)]
  induction turns generalizing r with
  | nil => simp [credits]
  | cons turn turns ih =>
      rw [credits, List.pairwise_cons, ih (h.step turn)]
      constructor
      · rintro ⟨hfirst, hrest⟩ before first between last hprefix n ⟨hfound, hagain⟩
        cases before with
        | nil =>
            rw [List.nil_append, List.cons_prefix_cons] at hprefix
            obtain ⟨rfl, hprefix⟩ := hprefix
            exact hfirst _ (mem_credits_iff.2 ⟨between, last, hprefix, rfl⟩)
              (mem_credited_iff.2 hfound) (mem_credited_iff.2 hagain)
        | cons _ before =>
            rw [List.cons_append, List.cons_prefix_cons] at hprefix
            obtain ⟨rfl, hprefix⟩ := hprefix
            exact hrest before first between last hprefix n ⟨hfound, hagain⟩
      · intro honce
        refine ⟨fun numbers hnumbers n hn hagain => ?_, fun before first between last hprefix => ?_⟩
        · obtain ⟨between, last, hprefix, rfl⟩ := mem_credits_iff.1 hnumbers
          exact honce [] turn between last ((List.prefix_cons_inj turn).2 hprefix) n
            ⟨mem_credited_iff.1 hn, mem_credited_iff.1 hagain⟩
        · exact honce (turn :: before) first between last ((List.prefix_cons_inj turn).2 hprefix)

/-- What a step does to the roll and to the ladder. -/
structure Accounts (r : Roll) (turn : Moment × Step) : Prop where
  stayed : Model.Grows turn.1.now
    (turn.2.staying turn.1 r.scene r.scene.session.model.dates) (r.step turn).scene.session.model
  numbered : r.Sound
  ladder : (∀ host, turn.2 ≠ .elsewhere host) → (r.step turn).scene.host.ladder =
    match turn.2.outcome? with
    | some outcome =>
      if r.scene.session.settings.ladder then
        (r.scene.host.credit turn.1.now r.scene.session.model outcome.winner outcome.tie).ladder
      else r.scene.host.ladder
    | none => r.scene.host.ladder
  credits : ∀ outcome standings shelf, turn.2.outcome? = some outcome →
    r.scene.session.settings.ladder → r.scene.host.ladder = some (standings, shelf) →
      standings.creditModel turn.1.now r.scene.session.model outcome.winner outcome.tie =
        ((r.credited turn).length, ((r.credited turn).foldl (fun s place =>
          s.creditPlayer turn.1.now r.scene.session.model.startedAt outcome.winner outcome.tie
            place.1) standings).sort)

theorem Sound.accounts (h : r.Sound) (turn : Moment × Step) : r.Accounts turn where
  stayed := r.scene.grows_run turn.1 turn.2
  numbered := h
  ladder := r.scene.ladder_run turn.1 turn.2
  credits outcome standings shelf hover hkeeps hladder := by
    have hon : (turn.2.outcome?.isSome && r.scene.session.settings.ladder &&
        r.scene.host.ladder.isSome) = true := by
      rw [hover, hkeeps, hladder]
      rfl
    have hplayers : ((r.scene.session.model.players.zip r.numbers).filter
        fun place => Standings.qualifies place.1).map Prod.fst =
          r.scene.session.model.players.filter Standings.qualifies := by
      have hall := List.map_fst_zip (Nat.le_of_eq h.length.symm)
      conv_rhs => rw [← hall, List.filter_map]
      rfl
    rw [credited, if_pos hon, Standings.creditModel, Standings.credit, ← hplayers, List.length_map,
      List.foldl_map]

end Roll

theorem Step.not_starts_of_outcome {step : Step} (h : step.outcome?.isSome) : ¬ step.Starts := by
  rintro ⟨map, hmap⟩
  rw [outcome?, hmap] at h
  cases h

/-- All that a turn does is made of steps, and the roll keeps account of them: only the end of a
match changes the ladder, which takes in everyone who is there and qualifies. Over any steps the
same player is credited at most once from one beginning of a match to the next, exactly if no two
ends of a match find the same player without a beginning between them. -/
theorem everyone_is_credited_once_iff_no_second_end_finds_them (sc : Scene)
    (steps : List (Moment × Step)) :
    (∀ t dial arrivals out (sc : Scene), Becomes t sc (sc.turn t dial arrivals out)) ∧
      (∀ before turn, before ++ [turn] <+: steps →
        ((Roll.start sc).course before).scene = sc.course before ∧
          ((Roll.start sc).course before).Accounts turn) ∧
      ((∀ before stretch, before ++ stretch <+: steps → (∀ turn ∈ stretch, ¬ turn.2.Starts) →
          (((Roll.start sc).course before).credits stretch).flatten.Nodup) ↔
        ∀ before first between last, before ++ first :: (between ++ [last]) <+: steps →
          (∀ turn ∈ between, ¬ turn.2.Starts) →
          ∀ n, ¬ (((Roll.start sc).course before).Finds first n ∧
            ((Roll.start sc).course (before ++ first :: between)).Finds last n)) := by
  have hsound (before : List (Moment × Step)) : ((Roll.start sc).course before).Sound :=
    (Roll.sound_start sc).course before
  refine ⟨fun _ => becomes_turn,
    fun before turn _ => ⟨Roll.scene_course before, (hsound before).accounts turn⟩, ?_, ?_⟩
  · rintro honce before first between last hprefix hbetween n ⟨hfound, hagain⟩
    -- the two steps are ends, so no match begins with them either
    have hnone : ∀ turn ∈ first :: (between ++ [last]), ¬ turn.2.Starts := by
      simp only [List.forall_mem_cons, List.forall_mem_append]
      exact ⟨Step.not_starts_of_outcome hfound.ends, hbetween,
        Step.not_starts_of_outcome hagain.ends, nofun⟩
    rw [Roll.course_append] at hagain
    exact ((hsound before).nodup_flatten_credits_iff _).1 (honce before _ hprefix hnone) []
      first between last (List.prefix_refl _) n ⟨hfound, hagain⟩
  · intro hnever before stretch hprefix hnone
    refine ((hsound before).nodup_flatten_credits_iff stretch).2 ?_
    rintro more first between last hmore n ⟨hfound, hagain⟩
    have hin : before ++ more ++ first :: (between ++ [last]) <+: steps := by
      rw [List.append_assoc]
      exact ((List.prefix_append_right_inj before).2 hmore).trans hprefix
    refine hnever (before ++ more) first between last hin (fun turn hturn => ?_) n ⟨?_, ?_⟩
    · refine hnone turn (hmore.subset ?_)
      simp [hturn]
    · rw [Roll.course_append]
      exact hfound
    · rw [List.append_assoc, Roll.course_append]
      exact hagain

/-- A player joins, and the log says twice that a match is over. -/
theorem a_match_can_be_credited_twice :
    let standings : Standings := { file := Store.handleOf ([] : List Ladder.Entry) }
    let shelf : Store.Shelf := { node := .file (Store.contentOf ([] : List Ladder.Entry)) }
    let sc : Scene := {
      host := { ladder := some (standings, shelf) }
      session := .idle { name := "a", ladder := true } ⟨0⟩ }
    let log (fields : List String) : Moment × Step :=
      ({ now := ⟨5000⟩ }, .line { kind := .log, fields, delimiter := 2 })
    let steps := [
      log ["PLAYER", "Enter;", "GDI,7,Carol", "from", "10.0.0.7", "steamid", "0x10"],
      log ["GAME", "MatchEnd;", "winner", "GDI", "Buildings", "GDI=10", "Nod=2"],
      log ["GAME", "MatchEnd;", "winner", "GDI", "Buildings", "GDI=10", "Nod=2"]]
    Standings.openAt 5 shelf = (.ok standings, shelf) ∧ (∀ turn ∈ steps, ¬ turn.2.Starts) ∧
      ¬ ((Roll.start sc).credits steps).flatten.Nodup ∧
      (sc.course steps).host.ladder.map (fun l => l.1.entries.map fun e =>
        (e.account, e.totals.games)) = some [(16, 2)] := by
  intro standings shelf sc log steps
  have hstarts : ∀ turn ∈ steps, ∀ e ∈ turn.2.logged?, e.kinds ≠ [.matchStart] := by decide +kernel
  refine ⟨by decide +kernel, ?_, by decide +kernel, by decide +kernel⟩
  rintro turn hturn ⟨map, hmap⟩
  exact hstarts turn hturn _ hmap rfl

end RemoteConsole.Scene
