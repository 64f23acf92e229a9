import RemoteConsole.Host.Turn
import RemoteConsole.Proofs.Match.Players

namespace RemoteConsole

open Wire (Line Bytes)

namespace Session

structure Quiet (s after : Session) : Prop where
  settings : after.settings = s.settings
  players : after.model.identities = s.model.identities ∨ after.model.identities = []

theorem Quiet.of_eq {s after : Session} (hsettings : after.settings = s.settings)
    (hmodel : after.model = s.model) : Quiet s after :=
  ⟨hsettings, .inl (congrArg Match.Model.identities hmodel)⟩

theorem Quiet.refl (s : Session) : Quiet s s :=
  .of_eq rfl rfl

theorem Quiet.trans {s between after : Session} (h : Quiet s between) (h' : Quiet between after) :
    Quiet s after where
  settings := h'.settings.trans h.settings
  players := by
    rcases h'.players with hsame | hnone
    · rw [hsame]
      exact h.players
    · exact .inr hnone

theorem Quiet.of_base {s base after : Session} (h : Quiet base after)
    (hsettings : base.settings = s.settings) (hmodel : base.model = s.model) : Quiet s after :=
  (Quiet.of_eq hsettings hmodel).trans h

variable (s : Session)

theorem quiet_terminate (reason : String) : Quiet s (s.terminate reason) :=
  ⟨rfl, .inr rfl⟩

theorem quiet_disconnect (t : Moment) (reason : String) : Quiet s (s.disconnect t reason) := by
  unfold disconnect retry
  dsimp only
  split
  · exact ⟨rfl, .inr rfl⟩
  · exact ⟨rfl, .inr rfl⟩

theorem quiet_fail (t : Moment) (f : Fault) : Quiet s (s.fail t f) := by
  unfold fail
  split
  · exact s.quiet_terminate _
  · exact s.quiet_disconnect t _

theorem request_keeps (now : Instant) (r : Wire.Request) :
    (s.request now r).2.settings = s.settings ∧ (s.request now r).2.model = s.model := by
  unfold request
  split <;> exact ⟨rfl, rfl⟩

theorem sendAll_keeps (now : Instant) (commands : List String) :
    (s.sendAll now commands).settings = s.settings ∧
      (s.sendAll now commands).model = s.model := by
  unfold sendAll
  induction commands generalizing s with
  | nil => exact ⟨rfl, rfl⟩
  | cons command commands ih =>
      obtain ⟨hsettings, hmodel⟩ := s.request_keeps now (.execute command)
      obtain ⟨hsettings', hmodel'⟩ := ih (s.send now command).2
      exact ⟨hsettings'.trans hsettings, hmodel'.trans hmodel⟩

theorem quiet_request (now : Instant) (r : Wire.Request) : Quiet s (s.request now r).2 :=
  .of_eq (s.request_keeps now r).1 (s.request_keeps now r).2

theorem quiet_sendAll (now : Instant) (commands : List String) : Quiet s (s.sendAll now commands) :=
  .of_eq (s.sendAll_keeps now commands).1 (s.sendAll_keeps now commands).2

theorem quiet_endMatch (now : Instant) (delay : Millis) : Quiet s (s.endMatch now delay) := by
  have hplanned : Quiet s { s with gameoverAt := some (now.after delay) } := .of_eq rfl rfl
  unfold endMatch
  dsimp only
  split
  · exact hplanned
  · exact hplanned.trans (quiet_request _ now _)

theorem quiet_act (t : Moment) (a : Action) : Quiet s (s.act t a).2 := by
  cases a with
  | send | say | announce | tell | kick => exact s.quiet_request t.now _
  | endMatch delay => exact s.quiet_endMatch t.now delay
  | endMatchWhenEmpty | keepMatch | remember | askWait | askModel => exact .of_eq rfl rfl
  | disconnect reason => exact s.quiet_disconnect t reason
  | terminate reason => exact s.quiet_terminate reason

theorem quiet_receiveBanner (t : Moment) (line : Bytes) : Quiet s (s.receiveBanner t line) := by
  unfold receiveBanner
  split
  · exact s.quiet_fail t _
  · split
    · exact s.quiet_fail t _
    · exact (quiet_request _ t.now _).of_base rfl rfl

theorem quiet_receiveAuthenticated (now : Instant) (line : Line) :
    Quiet s (s.receiveAuthenticated now line) := by
  unfold receiveAuthenticated
  split
  · exact .refl s
  · have hasked (base : Session) (commands : List String) (e : Event) :
        Quiet base (((base.request now .subscribe).2.sendAll now commands).emit e) :=
      ((base.quiet_request now .subscribe).trans (quiet_sendAll _ now commands)).trans
        (.of_eq rfl rfl)
    exact (hasked _ _ _).of_base rfl rfl

theorem quiet_receiveError (t : Moment) (line : Line) : Quiet s (s.receiveError t line) := by
  unfold receiveError
  dsimp only
  split
  · exact s.quiet_fail t _
  · exact .of_eq rfl rfl

theorem quiet_receiveResponse (now : Instant) (line : Line) :
    Quiet s (s.receiveResponse now line) := by
  unfold receiveResponse receivePong
  dsimp only
  repeat' split
  all_goals exact .of_eq rfl rfl

theorem quiet_syncTravelling : Quiet s s.syncTravelling := by
  unfold syncTravelling
  split <;> exact .of_eq rfl rfl

theorem quiet_pollConnect (t : Moment) (dial : Dial) : Quiet s (s.pollConnect t dial) := by
  unfold pollConnect
  split
  · exact .of_eq rfl rfl
  · cases dial with
    | underway => exact .refl s
    | opened => exact .of_eq rfl rfl
    | failed reason => exact (quiet_fail _ t _).of_base rfl rfl

theorem quiet_keepalive (t : Moment) : Quiet s (s.keepalive t) := by
  unfold keepalive
  split
  · split
    · exact s.quiet_fail t _
    · exact .refl s
  · dsimp only
    split
    · have hsent : Quiet s (s.send t.now (ping keepaliveToken)).2 := s.quiet_request t.now _
      split
      · exact hsent.trans (.of_eq rfl rfl)
      · exact hsent
    · exact .refl s

theorem quiet_refreshRoster (now : Instant) : Quiet s (s.refreshRoster now) := by
  unfold refreshRoster
  split
  · exact (quiet_sendAll _ now _).of_base rfl rfl
  · exact .refl s

theorem quiet_endPlannedMatch (now : Instant) : Quiet s (s.endPlannedMatch now) := by
  unfold endPlannedMatch
  split
  · split
    · exact (quiet_request _ now (.execute "gameover")).of_base rfl rfl
    · exact .refl s
  · exact .refl s

theorem quiet_endEmptyMatch (now : Instant) : Quiet s (s.endEmptyMatch now) := by
  unfold endEmptyMatch
  split
  · exact (quiet_request _ now (.execute "gameover")).of_base rfl rfl
  · exact .refl s

theorem quiet_runTimers (t : Moment) : Quiet s (s.runTimers t) := by
  unfold runTimers
  dsimp only
  split
  · split
    · exact s.quiet_fail t _
    · exact .refl s
  · split
    · exact s.quiet_fail t _
    · have hkept := s.quiet_keepalive t
      split
      · have hasked := hkept.trans (quiet_refreshRoster _ t.now)
        exact (hasked.trans (quiet_endPlannedMatch _ t.now)).trans (quiet_endEmptyMatch _ t.now)
      · exact hkept

theorem quiet_drainOutbound (t : Moment) (out : Outflow) : Quiet s (s.drainOutbound t out) := by
  unfold drainOutbound
  split
  · exact .refl s
  · split
    · exact .of_eq rfl rfl
    · cases out with
      | took bytes => exact .of_eq rfl rfl
      | ended => exact s.quiet_fail t _
      | failed reason => exact s.quiet_fail t _

theorem quiet_settleNames (nameOf : Address → Option String) : Quiet s (s.settleNames nameOf) where
  settings := rfl
  players := by
    left
    simp only [settleNames, Match.Model.identities, List.map_map]
    rfl

end Session

namespace Scene

structure Quiet (sc after : Scene) : Prop where
  bans : after.host.bans = sc.host.bans
  session : sc.session.Quiet after.session

theorem Quiet.refl (sc : Scene) : Quiet sc sc :=
  ⟨rfl, .refl _⟩

theorem Quiet.trans {sc between after : Scene} (h : Quiet sc between) (h' : Quiet between after) :
    Quiet sc after :=
  ⟨h'.bans.trans h.bans, h.session.trans h'.session⟩

theorem Quiet.foldl {α : Type} {f : Scene → α → Scene} (hf : ∀ sc a, Quiet sc (f sc a))
    (as : List α) (sc : Scene) : Quiet sc (as.foldl f sc) := by
  induction as generalizing sc with
  | nil => exact .refl sc
  | cons a as ih => exact (hf sc a).trans (ih (f sc a))

theorem quiet_onSession {f : Session → Session} (sc : Scene)
    (hf : sc.session.Quiet (f sc.session)) : Quiet sc (sc.onSession f) :=
  ⟨rfl, hf⟩

variable (t : Moment) (sc : Scene)

theorem receive_cases (l : Line) :
    (Quiet sc (sc.receive t l).2 ∧ (l.kind = .log → (GameLog.classify l).isKnown = false)) ∨
      (l.kind = .log ∧ (sc.receive t l).2 =
        sc.handleAll t (sc.session.model.apply t.now (GameLog.classify l))) := by
  unfold receive
  cases hkind : l.kind with
  | version | other => exact .inl ⟨.refl sc, nofun⟩
  | authenticated =>
      exact .inl ⟨⟨rfl, sc.session.quiet_receiveAuthenticated t.now l⟩, nofun⟩
  | error => exact .inl ⟨⟨rfl, sc.session.quiet_receiveError t l⟩, nofun⟩
  | echo => exact .inl ⟨⟨rfl, .of_eq rfl rfl⟩, nofun⟩
  | response => exact .inl ⟨⟨rfl, sc.session.quiet_receiveResponse t.now l⟩, nofun⟩
  | log =>
      dsimp only
      split
      · exact .inr ⟨rfl, rfl⟩
      · rename_i hunknown
        exact .inl ⟨.refl sc, fun _ => by simpa using hunknown⟩

theorem quiet_call (callee : Callee) (notice : Notice) (answer : Session → List Session.Action) :
    Quiet sc (sc.call t callee notice answer) := by
  have hact (sc : Scene) (a : Session.Action) : Quiet sc (sc.act t callee a) :=
    ⟨rfl, sc.session.quiet_act t a⟩
  have hrecord : Quiet sc (sc.record callee notice) := ⟨rfl, .refl _⟩
  exact hrecord.trans (.foldl hact _ _)

theorem quiet_callPlugins (notice : Notice) (wants : Plugin → Bool)
    (answer : Plugin → Session → List Session.Action) :
    Quiet sc (sc.callPlugins t notice wants answer) := by
  refine Quiet.foldl (fun sc p => ?_) _ sc
  dsimp only
  split
  · exact sc.quiet_call t _ notice _
  · exact .refl sc

theorem quiet_deliverOther (line : Line) : Quiet sc (sc.deliverOther t line) :=
  sc.quiet_callPlugins t (.other line) _ _

theorem quiet_deliverRaw (text : String) : Quiet sc (sc.deliverRaw t text) :=
  sc.quiet_callPlugins t (.raw text) _ _

theorem quiet_callHandlers (e : Event) : Quiet sc (sc.callHandlers t e) := by
  refine Quiet.foldl (fun sc h => ?_) _ sc
  dsimp only
  split
  · exact sc.quiet_call t _ _ _
  · exact .refl sc

theorem quiet_deliver (e : Event) : Quiet sc (sc.deliver t e) :=
  (sc.quiet_callPlugins t _ _ _).trans (quiet_callHandlers t _ e)

theorem quiet_routeChat (e : Event) : Quiet sc (sc.routeChat t e) := by
  have hroute (p : Match.Player) (text : String) : Quiet sc (sc.route t p text).2 := by
    unfold route
    split
    · exact .refl sc
    · rename_i c i params _
      exact sc.quiet_call t (.command i) (.asked p params) (c.run sc.host.reference · p params)
  have hmessage (p : Match.Player) (message : String) : Quiet sc (sc.routeMessage t p message) := by
    unfold routeMessage
    split
    · exact .refl sc
    · split
      · exact .refl sc
      · exact hroute p _
  unfold routeChat
  split
  · exact hmessage _ _
  · exact hmessage _ _
  · exact .refl sc

theorem quiet_flushFrom (fuel : Nat) : Quiet sc (sc.flushFrom t fuel) := by
  induction fuel generalizing sc with
  | zero => exact .refl sc
  | succ fuel ih =>
      unfold flushFrom
      split
      · exact .refl sc
      · rename_i e queue _
        have htaken : Quiet sc (sc.onSession ({ · with queue })) :=
          quiet_onSession sc (.of_eq rfl rfl)
        exact ((htaken.trans (quiet_deliver t _ e)).trans (quiet_routeChat t _ e)).trans (ih _)

theorem quiet_flush : Quiet sc (sc.flush t) :=
  sc.quiet_flushFrom t _

end Scene

end RemoteConsole
