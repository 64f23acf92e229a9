import RemoteConsole.Proofs.Host.Course
import RemoteConsole.Proofs.Host.Quiet
import RemoteConsole.Proofs.Host.Telling
import RemoteConsole.Proofs.Match.Events
import RemoteConsole.Proofs.Match.Places

namespace RemoteConsole

open GameLog (Entry Outcome)
open Ladder (Standings)
open Match (Model Player)

namespace Session

def Remains (s after : Session) : Prop :=
  after.model.dates = s.model.dates ∨ after.model.players = []

section Remaining

variable {s between after : Session}

theorem Remains.of_model (h : after.model = s.model) : s.Remains after :=
  .inl (congrArg Model.dates h)

theorem Remains.refl (s : Session) : s.Remains s :=
  .inl rfl

theorem Remains.trans (h : s.Remains between) (h' : between.Remains after) : s.Remains after := by
  rcases h' with hsame | hnobody
  · rcases h with hbefore | hnobody
    · exact .inl (hsame.trans hbefore)
    · rw [Model.dates, Model.dates, hnobody] at hsame
      exact .inr (List.map_eq_nil_iff.1 hsame)
  · exact .inr hnobody

theorem Speaks.remains (h : s.Speaks after) : s.Remains after :=
  .of_model (by rw [h.same])

theorem Parts.remains (h : s.Parts after) : s.Remains after := by
  obtain ⟨reason, hsame⟩ := h.same
  right
  rw [hsame]
  rfl

theorem remains_act (t : Moment) (s : Session) (a : Action) : s.Remains (s.act t a).2 :=
  (s.act_cases t a).elim Speaks.remains Parts.remains

theorem remains_receiveBanner (t : Moment) (s : Session) (line : Wire.Bytes) :
    s.Remains (s.receiveBanner t line) := by
  rcases s.receiveBanner_cases t line with ⟨_, _, _, hspeaks⟩ | ⟨hparts, -⟩
  · exact hspeaks.remains
  · exact hparts.remains

theorem remains_receiveAuthenticated (now : Instant) (s : Session) (line : Wire.Line) :
    s.Remains (s.receiveAuthenticated now line) := by
  unfold receiveAuthenticated
  split
  · exact .refl s
  · exact .of_model ((sendAll_keeps _ now _).2.trans (request_keeps _ now _).2)

theorem remains_receiveError (t : Moment) (s : Session) (line : Wire.Line) :
    s.Remains (s.receiveError t line) := by
  unfold receiveError
  dsimp only
  split
  · exact (s.fail_parts t _).remains
  · exact .refl s

theorem remains_receiveResponse (now : Instant) (s : Session) (line : Wire.Line) :
    s.Remains (s.receiveResponse now line) := by
  unfold receiveResponse receivePong
  dsimp only
  repeat' split
  all_goals exact .refl s

theorem remains_pollConnect (t : Moment) (s : Session) (dial : Dial) :
    s.Remains (s.pollConnect t dial) := by
  unfold pollConnect
  split
  · exact .refl s
  · cases dial with
    | underway | opened => exact .refl s
    | failed reason => exact (fail_parts _ t _).remains

theorem remains_drainOutbound (t : Moment) (s : Session) (out : Outflow) :
    s.Remains (s.drainOutbound t out) := by
  rcases s.drainOutbound_cases t out with ⟨hsame, -⟩ | hparts
  · exact .of_model (by rw [hsame])
  · exact hparts.remains

theorem remains_syncTravelling (s : Session) : s.Remains s.syncTravelling := by
  unfold syncTravelling
  split <;> exact .refl s

theorem remains_settleNames (s : Session) (nameOf : Address → Option String) :
    s.Remains (s.settleNames nameOf) :=
  .inl List.map_map

end Remaining

end Session

namespace Host

variable (h : Host) (now : Instant) (p : Player)

/-- A look at the bans changes nothing of the player but the marks. -/
theorem checkBans_marks : ∃ flags, (h.checkBans now p).2.1 = { p with banFlags := flags } := by
  unfold checkBans
  split
  · exact ⟨p.banFlags, rfl⟩
  · rename_i book shelf _
    have hmarked (kinds : Ban.Flags) (q : Player)
        (h : (book.check now.unix p shelf).1 = .ok (kinds, q)) :
        q = { p with banFlags := p.banFlags.union kinds } := by
      unfold Ban.Book.check at h
      dsimp only at h
      split at h
      · cases h
      · cases h
        rfl
    dsimp only
    split
    · exact ⟨p.banFlags, rfl⟩
    · rename_i hfound
      exact ⟨_, hmarked _ _ hfound⟩

theorem checkBans_ladder : (h.checkBans now p).2.2.ladder = h.ladder := by
  unfold checkBans
  split
  · rfl
  · dsimp only
    split <;> rfl

theorem addBan_ladder (banner reason : String) (duration : UInt64) (kinds : Ban.Flags) :
    (h.addBan now p banner reason duration kinds).2.ladder = h.ladder := by
  unfold addBan
  split <;> rfl

end Host

namespace Scene

structure Idles (sc after : Scene) : Prop where
  ladder : after.host.ladder = sc.host.ladder
  session : sc.session.Remains after.session

structure Settles (sc after : Scene) : Prop where
  ladder : after.host.ladder = sc.host.ladder
  dates : after.session.model.dates = sc.session.model.dates

theorem Settles.refl (sc : Scene) : Settles sc sc :=
  ⟨rfl, rfl⟩

theorem Settles.trans {sc between after : Scene} (h : Settles sc between)
    (h' : Settles between after) : Settles sc after :=
  ⟨h'.ladder.trans h.ladder, h'.dates.trans h.dates⟩

theorem Settles.of_model {sc after : Scene} (hhost : after.host = sc.host)
    (hmodel : after.session.model = sc.session.model) : Settles sc after :=
  ⟨congrArg Host.ladder hhost, congrArg Model.dates hmodel⟩

section Events

variable (t : Moment) (sc : Scene)

theorem settles_screen (id : PlayerId) : Settles sc (sc.screen t id).2 := by
  unfold screen
  cases hfound : sc.session.model.player? id with
  | none => exact .refl sc
  | some p =>
      dsimp only
      split
      · obtain ⟨flags, hmarked⟩ := sc.host.checkBans_marks t.now
          { p with hostName := sc.host.lookUp p.address p.hostName }
        refine ⟨sc.host.checkBans_ladder t.now _, Model.dates_replace hfound ?_⟩
        rw [hmarked]
      · exact ⟨rfl, Model.dates_replace hfound rfl⟩

theorem settles_emit (e : Event) : Settles sc (sc.onSession (·.emit e)) :=
  .of_model rfl rfl

theorem settles_attend (e : Event) (he : e.kind ≠ .matchEnd) :
    Settles sc (sc.attend t e).2.2 := by
  cases e with
  | playerJoin p | playerDiscovered p => exact sc.settles_screen t p.id
  | matchEnd outcome => exact absurd rfl he
  | mapStart map => exact .of_model rfl (sc.session.sendAll_keeps t.now _).2
  | _ => exact .refl sc

theorem settles_handle_of_attend (e : Event) :
    Settles (sc.attend t e).2.2 (sc.handle t e) := by
  unfold handle
  generalize sc.attend t e = attended
  obtain ⟨kinds, told, after⟩ := attended
  have htold := after.settles_emit told
  dsimp only
  split
  · exact htold
  · rename_i p _
    split
    · exact htold
    · refine htold.trans (Settles.trans ?_ (settles_emit _ _))
      split
      · exact .of_model rfl (Session.request_keeps _ t.now _).2
      · exact .refl _

theorem settles_handleAll {r : Model × List Event} (h : ∀ e ∈ r.2, e.kind ≠ .matchEnd) :
    Settles (sc.onSession ({ · with model := r.1 })) (sc.handleAll t r) := by
  unfold handleAll
  generalize sc.onSession ({ · with model := r.1 }) = sc'
  refine List.foldlRecOn (motive := Settles sc') r.2 (handle t) (.refl sc') ?_
  intro after hsettles e he
  exact (hsettles.trans (after.settles_attend t e (h e he))).trans
    (after.settles_handle_of_attend t e)

theorem settles_banPlayer (id : PlayerId) (banner reason : String) (duration : UInt64) :
    Settles sc (sc.banPlayer t id banner reason duration).2 := by
  have hkick (sc : Scene) : Settles sc { sc with session := (sc.session.kick t.now id reason).2 } :=
    .of_model rfl (sc.session.request_keeps t.now _).2
  unfold banPlayer
  cases hfound : sc.session.model.player? id with
  | none => exact hkick sc
  | some p =>
      refine Settles.trans ?_ (hkick _)
      exact ⟨sc.host.addBan_ladder t.now _ _ _ _ _, Model.dates_replace hfound rfl⟩

theorem handleAll_matchEnd (outcome : Outcome) :
    (sc.handleAll t (sc.session.model.apply t.now (.matchEnd outcome))).session.model.dates =
        sc.session.model.dates ∧
      (sc.handleAll t (sc.session.model.apply t.now (.matchEnd outcome))).host.ladder =
        if sc.session.settings.ladder then
          (sc.host.credit t.now sc.session.model outcome.winner outcome.tie).ladder
        else sc.host.ladder := by
  obtain ⟨hladder, hdates⟩ := settles_handle_of_attend t
    (sc.onSession fun s => { s with model := (s.model.matchEnd outcome).1 }) (.matchEnd outcome)
  refine ⟨hdates.trans ?_, hladder.trans ?_⟩
  · unfold attend finishMatch
    dsimp only
    split <;> rfl
  · unfold attend finishMatch
    dsimp only
    split
    · rename_i hon
      exact (if_pos hon).symm
    · rename_i hoff
      exact (if_neg hoff).symm

end Events

section Steps

variable (t : Moment) (sc : Scene)

theorem receive_log {l : Wire.Line} (h : l.kind = .log) :
    (sc.receive t l).2 = sc.handleAll t (sc.session.model.apply t.now (GameLog.classify l)) := by
  unfold receive
  rw [h]
  dsimp only
  split
  · rfl
  · rename_i hunknown
    generalize GameLog.classify l = e at hunknown
    cases e with
    | unknown => rfl
    | _ => exact absurd rfl hunknown

theorem idles_receive {l : Wire.Line} (h : l.kind ≠ .log) : Idles sc (sc.receive t l).2 := by
  unfold receive
  cases hkind : l.kind with
  | log => exact absurd hkind h
  | version | other => exact ⟨rfl, .refl _⟩
  | authenticated => exact ⟨rfl, sc.session.remains_receiveAuthenticated t.now l⟩
  | error => exact ⟨rfl, sc.session.remains_receiveError t l⟩
  | echo => exact ⟨rfl, .refl _⟩
  | response => exact ⟨rfl, sc.session.remains_receiveResponse t.now l⟩

/-- Neither a line of the log nor an answer is read, and no other session has a part in it. -/
def Step.IsIdle : Step → Prop
  | line l => l.kind ≠ .log
  | answer | elsewhere _ => False
  | _ => True

theorem idles_run {step : Step} (h : step.IsIdle) : Idles sc (step.run t sc) := by
  have hacts (s : Session) (a : Session.Action) (h : sc.session.Remains s) :
      sc.session.Remains (s.act t a).2 := h.trans (Session.remains_act t s a)
  cases step with
  | answer | elsewhere host => exact h.elim
  | line l => exact sc.idles_receive t h
  | hear | frame | startConnect => exact ⟨rfl, .refl _⟩
  | banner line => exact ⟨rfl, sc.session.remains_receiveBanner t line⟩
  | followMap => exact ⟨rfl, sc.session.remains_syncTravelling⟩
  | pollConnect dial => exact ⟨rfl, sc.session.remains_pollConnect t dial⟩
  | lose fault => exact ⟨rfl, (sc.session.fail_parts t fault).remains⟩
  | timers =>
      exact ⟨rfl, (sc.session.runTimers_cases t).elim Session.Speaks.remains Session.Parts.remains⟩
  | drain out => exact ⟨rfl, sc.session.remains_drainOutbound t out⟩
  | names nameOf => exact ⟨rfl, sc.session.remains_settleNames nameOf⟩
  | act a => exact ⟨rfl, sc.session.remains_act t a⟩
  | ban id author reason duration =>
      obtain ⟨hladder, hdates⟩ := sc.settles_banPlayer t id author reason duration
      exact ⟨hladder, .inl hdates⟩
  | flush =>
      refine ⟨congrArg Host.ladder (sc.host_flush t), ?_⟩
      exact flush_keeps (P := sc.session.Remains) (any_answer_keeps hacts) sc.host.answers_any
        (fun s e queue _ h => h.trans (.refl s)) (.refl _)
  | tellOther l =>
      refine ⟨congrArg Host.ladder (sc.host_callPlugins t _ _ _), ?_⟩
      exact deliverOther_keeps (P := sc.session.Remains) (any_answer_keeps hacts)
        sc.host.answers_any l (.refl _)
  | tellRaw text =>
      refine ⟨congrArg Host.ladder (sc.host_callPlugins t _ _ _), ?_⟩
      exact deliverRaw_keeps (P := sc.session.Remains) (any_answer_keeps hacts)
        sc.host.answers_any text (.refl _)

end Steps

namespace Step

/-- What the log of the game says, if the step is a line of it. -/
def logged? : Step → Option Entry
  | line l => if l.kind = .log then some (GameLog.classify l) else none
  | _ => none

def outcome? (step : Step) : Option Outcome :=
  match step.logged? with
  | some (.matchEnd outcome) => some outcome
  | _ => none

/-- The labels of the players who stay through a step. Nobody does if nobody is left. -/
def staying {α : Type} (t : Moment) (sc : Scene) (step : Step) (labels : List α) : List α :=
  if (step.run t sc).session.model.players = [] then []
  else
    match step with
    | line l =>
      if l.kind = .log then sc.session.model.staying (GameLog.classify l) labels else labels
    | answer =>
      match sc.session.response with
      | none => labels
      | some table => sc.session.model.stayingIn table labels
    | _ => labels

section Labels

variable {α β : Type} (t : Moment) (sc : Scene) (step : Step) {labels : List α}

theorem staying_map (g : α → β) (labels : List α) :
    step.staying t sc (labels.map g) = (step.staying t sc labels).map g := by
  unfold staying
  split
  · rfl
  · split
    · split
      · exact Model.staying_map _ _ g labels
      · rfl
    · split
      · rfl
      · exact Model.stayingIn_map _ _ g labels
    · rfl

theorem staying_sublist (h : labels.length ≤ sc.session.model.players.length) :
    (step.staying t sc labels).Sublist labels := by
  unfold staying
  split
  · exact List.nil_sublist labels
  · split
    · split
      · exact Model.staying_sublist _ _
      · exact .refl labels
    · split
      · exact .refl labels
      · exact Model.stayingIn_sublist _ _ h
    · exact .refl labels

theorem length_staying {others : List β} (h : labels.length = others.length) :
    (step.staying t sc labels).length = (step.staying t sc others).length := by
  have hlabels : (labels.zip others).map Prod.fst = labels := List.map_fst_zip (Nat.le_of_eq h)
  have hothers : (labels.zip others).map Prod.snd = others := List.map_snd_zip (Nat.le_of_eq h.symm)
  have hleft := congrArg List.length (step.staying_map t sc Prod.fst (labels.zip others))
  have hright := congrArg List.length (step.staying_map t sc Prod.snd (labels.zip others))
  rw [hlabels, List.length_map] at hleft
  rw [hothers, List.length_map] at hright
  exact hleft.trans hright.symm

end Labels

end Step

section Steps

variable (t : Moment) (sc : Scene)

theorem kind_ne_matchEnd {e : Entry} (h : ∀ outcome, e ≠ .matchEnd outcome) :
    ∀ event ∈ (sc.session.model.apply t.now e).2, event.kind ≠ .matchEnd := by
  have hkinds : .matchEnd ∉ e.kinds := by
    cases e with
    | matchEnd outcome => exact absurd rfl (h outcome)
    | _ => simp [Entry.kinds]
  intro event hevent heq
  exact hkinds (heq ▸ sc.session.model.kind_of_mem_apply t.now e event hevent)

theorem handleAll_apply (e : Entry) :
    (sc.handleAll t (sc.session.model.apply t.now e)).session.model.dates =
        (sc.session.model.apply t.now e).1.dates ∧
      (sc.handleAll t (sc.session.model.apply t.now e)).host.ladder =
        match e with
        | .matchEnd outcome =>
          if sc.session.settings.ladder then
            (sc.host.credit t.now sc.session.model outcome.winner outcome.tie).ladder
          else sc.host.ladder
        | _ => sc.host.ladder := by
  by_cases h : ∃ outcome, e = .matchEnd outcome
  · obtain ⟨outcome, rfl⟩ := h
    exact sc.handleAll_matchEnd t outcome
  · obtain ⟨hladder, hdates⟩ := sc.settles_handleAll t
      (sc.kind_ne_matchEnd t fun outcome he => h ⟨outcome, he⟩)
    refine ⟨hdates, ?_⟩
    split
    · exact absurd ⟨_, rfl⟩ h
    · exact hladder

theorem finishResponse_of_some {table : Match.Table} (h : sc.session.response = some table) :
    sc.finishResponse t = (sc.onSession ({ · with response := none })).handleAll t
      (sc.session.model.applyTable t.now table) := by
  simp only [finishResponse, h]
  rfl

theorem settles_finishResponse {table : Match.Table} (h : sc.session.response = some table) :
    (sc.finishResponse t).host.ladder = sc.host.ladder ∧
      (sc.finishResponse t).session.model.dates =
        (sc.session.model.applyTable t.now table).1.dates := by
  have hkinds : ∀ event ∈ (sc.session.model.applyTable t.now table).2,
      event.kind ≠ .matchEnd := by
    intro event hevent
    obtain ⟨p, rfl⟩ := sc.session.model.discovered_of_mem_applyTable t.now table event hevent
    exact nofun
  rw [sc.finishResponse_of_some t h]
  generalize sc.session.model.applyTable t.now table = r at hkinds
  obtain ⟨hladder, hdates⟩ :=
    settles_handleAll t (sc.onSession ({ · with response := none })) hkinds
  exact ⟨hladder, hdates⟩

variable (step : Step)

/-- The ladder changes only with a line that says a match is over: then the match is credited, if
the session has a ladder. Other sessions may use the ladder as well. -/
theorem ladder_run (helsewhere : ∀ host, step ≠ .elsewhere host) :
    (step.run t sc).host.ladder =
      match step.outcome? with
      | some outcome =>
        if sc.session.settings.ladder then
          (sc.host.credit t.now sc.session.model outcome.winner outcome.tie).ladder
        else sc.host.ladder
      | none => sc.host.ladder := by
  have hidle (h : step.IsIdle) : (step.run t sc).host.ladder = sc.host.ladder :=
    (sc.idles_run t h).ladder
  cases step with
  | line l =>
      by_cases hlog : l.kind = .log
      · obtain ⟨-, hladder⟩ := sc.handleAll_apply t (GameLog.classify l)
        rw [Step.run, sc.receive_log t hlog, hladder, Step.outcome?, Step.logged?, if_pos hlog]
        cases GameLog.classify l <;> rfl
      · rw [Step.outcome?, Step.logged?, if_neg hlog]
        exact hidle hlog
  | answer =>
      cases hresponse : sc.session.response with
      | none => rw [Step.run, finishResponse, hresponse]; rfl
      | some table => exact (sc.settles_finishResponse t hresponse).1
  | elsewhere host => exact absurd rfl (helsewhere host)
  | _ => exact hidle trivial

/-- Those who stay have joined when they had joined, and all others have joined now. -/
theorem grows_run :
    Model.Grows t.now (step.staying t sc sc.session.model.dates)
      (step.run t sc).session.model := by
  -- a connection that is dropped takes all players with it
  by_cases hnobody : (step.run t sc).session.model.players = []
  · refine ⟨0, ?_⟩
    unfold Step.staying
    rw [if_pos hnobody, Model.dates, hnobody]
    rfl
  · have hidles (h : Idles sc (step.run t sc)) :
        Model.Grows t.now sc.session.model.dates (step.run t sc).session.model :=
      (Model.Grows.refl _ _).of_dates (h.session.resolve_right hnobody)
    unfold Step.staying
    rw [if_neg hnobody]
    cases step with
    | line l =>
        dsimp only
        split
        · rename_i hlog
          rw [Step.run, sc.receive_log t hlog]
          exact (Model.grows_apply _ _).of_dates (sc.handleAll_apply t _).1
        · rename_i hlog
          exact hidles (sc.idles_receive t hlog)
    | answer =>
        dsimp only
        split
        · rename_i hnone
          rw [Step.run, finishResponse, hnone]
          exact .refl _ _
        · rename_i table htable
          exact (Model.grows_applyTable _ table).of_dates (sc.settles_finishResponse t htable).2
    | elsewhere host => exact .refl _ _
    | _ => exact hidles (sc.idles_run t trivial)

end Steps

end Scene

end RemoteConsole
