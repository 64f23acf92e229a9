import RemoteConsole.Proofs.Match.Events

namespace RemoteConsole

namespace Host

def SameBut (h after : Host) : Prop :=
  after = { h with bans := after.bans, ladder := after.ladder }

theorem SameBut.refl (h : Host) : h.SameBut h :=
  rfl

theorem SameBut.trans {h between after : Host} (hfirst : h.SameBut between)
    (hsecond : between.SameBut after) : h.SameBut after := by
  rw [SameBut] at *
  rw [hsecond, hfirst]

variable (h : Host)

theorem sameBut_checkBans (now : Instant) (p : Match.Player) :
    h.SameBut (h.checkBans now p).2.2 := by
  unfold checkBans
  split
  · exact .refl h
  · dsimp only
    split <;> rfl

theorem sameBut_addBan (now : Instant) (p : Match.Player) (banner reason : String)
    (duration : UInt64) (kinds : Ban.Flags) :
    h.SameBut (h.addBan now p banner reason duration kinds).2 := by
  unfold addBan
  split
  · exact .refl h
  · rfl

theorem sameBut_credit (now : Instant) (model : Match.Model) (winner : Option Team) (tie : Bool) :
    h.SameBut (h.credit now model winner tie) := by
  unfold credit
  split
  · exact .refl h
  · dsimp only
    split <;> rfl

end Host

namespace Scene

open Wire (Line Bytes)
open Session (Advances)

structure Serves (sc after : Scene) : Prop where
  host : sc.host.SameBut after.host
  journal : after.journal = sc.journal
  session : ∃ events, Advances events sc.session after.session

structure Falls (sc after : Scene) : Prop where
  host : after.host = sc.host
  journal : after.journal = sc.journal
  session : sc.session.Parts after.session
  terminated : after.session.terminated.isSome

def Yields (sc after : Scene) : Prop :=
  sc.Serves after ∨ ∃ between, sc.Serves between ∧ between.Falls after

theorem Serves.refl (sc : Scene) : sc.Serves sc :=
  ⟨rfl, rfl, [], .refl _⟩

theorem Serves.trans {sc between after : Scene} (h : sc.Serves between)
    (h' : between.Serves after) : sc.Serves after where
  host := h.host.trans h'.host
  journal := h'.journal.trans h.journal
  session := by
    obtain ⟨events, hevents⟩ := h.session
    obtain ⟨more, hmore⟩ := h'.session
    exact ⟨events ++ more, hevents.trans hmore⟩

theorem Serves.yields {sc between after : Scene} (h : sc.Serves between)
    (h' : between.Yields after) : sc.Yields after := by
  rcases h' with hserves | ⟨fallen, hserves, hfalls⟩
  · exact .inl (h.trans hserves)
  · exact .inr ⟨fallen, h.trans hserves, hfalls⟩

theorem Yields.host {sc after : Scene} (h : sc.Yields after) : sc.host.SameBut after.host := by
  rcases h with hserves | ⟨between, hserves, hfalls⟩
  · exact hserves.host
  · rw [hfalls.host]
    exact hserves.host

/-- What a line does to the session, and whether anything recognised it. -/
def absorb (t : Moment) (line : Line) (sc : Scene) : Bool × Scene :=
  let sc := if line.kind = .response then sc else sc.finishResponse t
  let (recognised, sc) := sc.receive t line
  (recognised, sc.onSession (·.syncTravelling))

variable (t : Moment) (sc : Scene)

theorem processFields_eq (line : Line) :
    sc.processFields t line =
      ((if (sc.absorb t line).1 then (sc.absorb t line).2.flush t
        else ((sc.absorb t line).2.flush t).deliverOther t line).deliverRaw t line.raw) :=
  rfl

theorem tends_screen (id : PlayerId) : sc.session.Tends (sc.screen t id).2.session := by
  unfold screen
  split
  · exact .refl _
  · exact ⟨rfl⟩

theorem tends_attend (e : Event) : sc.session.Tends (sc.attend t e).2.2.session := by
  cases e with
  | playerJoin p | playerDiscovered p => exact sc.tends_screen t p.id
  | matchEnd outcome =>
      simp only [attend, finishMatch]
      split
      · exact ⟨rfl⟩
      · exact ⟨rfl⟩
  | mapStart map => exact (sc.session.sendAll_speaks t.now _).tends
  | _ => exact .refl _

theorem tends_handle (e : Event) : sc.session.Tends (sc.handle t e).session := by
  have hattend := sc.tends_attend t e
  unfold handle
  generalize sc.attend t e = attended at hattend
  obtain ⟨kinds, told, after⟩ := attended
  have htold : sc.session.Tends (after.session.emit told) := hattend.emit told
  dsimp only
  split
  · exact htold
  · split
    · exact htold
    · split
      · exact (htold.trans (Session.request_speaks _ t.now _).tends).emit _
      · exact htold.emit _

theorem tends_handleAll (r : Match.Model × List Event) :
    sc.session.Tends (sc.handleAll t r).session :=
  List.foldlRecOn (motive := fun after : Scene => sc.session.Tends after.session) r.2 (handle t)
    ⟨rfl⟩ fun after hafter e _ => hafter.trans (after.tends_handle t e)

theorem serves_screen (id : PlayerId) : sc.Serves (sc.screen t id).2 := by
  unfold screen
  split
  · exact .refl sc
  · refine ⟨?_, rfl, [], .still rfl rfl rfl rfl rfl rfl⟩
    dsimp only
    split
    · exact sc.host.sameBut_checkBans t.now _
    · exact .refl sc.host

theorem serves_finishMatch (outcome : GameLog.Outcome) :
    sc.Serves (sc.finishMatch t outcome) := by
  have hforgets : Advances [] sc.session
      { sc.session with gameoverAt := none, gameoverWhenEmpty := false } :=
    (Session.Speaks.plans none false).advances
  unfold finishMatch
  dsimp only
  split
  · exact ⟨sc.host.sameBut_credit t.now _ _ _, rfl, [], hforgets⟩
  · exact ⟨.refl sc.host, rfl, [], hforgets⟩

theorem serves_attend (e : Event) :
    sc.Serves (sc.attend t e).2.2 ∧ (sc.attend t e).2.1.kind = e.kind := by
  cases e with
  | playerJoin p | playerDiscovered p => exact ⟨sc.serves_screen t p.id, rfl⟩
  | matchEnd outcome => exact ⟨sc.serves_finishMatch t outcome, rfl⟩
  | mapStart map =>
      exact ⟨⟨.refl _, rfl, [], (sc.session.sendAll_speaks t.now _).advances⟩, rfl⟩
  | _ => exact ⟨.refl sc, rfl⟩

theorem serves_emit {e : Event} (h : e.kind.ofSession = false) :
    sc.Serves (sc.onSession (·.emit e)) := by
  refine ⟨.refl _, rfl, [e], rfl, ?_, rfl, Iff.rfl, rfl, rfl, rfl, rfl⟩
  have hnone : sessionKinds [e] = [] := sessionKinds_of_others (Match.Model.OfMatch.single h)
  rw [hnone, List.append_nil]
  rfl

theorem serves_handle {e : Event} (h : e.kind.ofSession = false) :
    sc.Serves (sc.handle t e) := by
  obtain ⟨hattend, hkind⟩ := sc.serves_attend t e
  unfold handle
  generalize sc.attend t e = attended at hattend hkind
  obtain ⟨kinds, e', sc'⟩ := attended
  dsimp only at hattend hkind ⊢
  have hqueued := hattend.trans (sc'.serves_emit (hkind ▸ h))
  split
  · exact hqueued
  · rename_i p _
    split
    · exact hqueued
    · refine hqueued.trans (Serves.trans ?_ (serves_emit _ rfl))
      split
      · exact ⟨.refl _, rfl, [], (Session.request_speaks _ t.now _).advances⟩
      · exact .refl _

theorem serves_handleAll {r : Match.Model × List Event} (h : Match.Model.OfMatch r.2) :
    sc.Serves (sc.handleAll t r) := by
  have hmodel : sc.Serves (sc.onSession ({ · with model := r.1 })) :=
    ⟨.refl _, rfl, [], .still rfl rfl rfl rfl rfl rfl⟩
  unfold handleAll
  generalize sc.onSession ({ · with model := r.1 }) = sc' at hmodel
  refine List.foldlRecOn (motive := sc.Serves) r.2 (handle t) hmodel ?_
  intro sc' hserves e he
  exact hserves.trans (sc'.serves_handle t (h e he))

theorem serves_finishResponse : sc.Serves (sc.finishResponse t) := by
  unfold finishResponse
  split
  · exact .refl sc
  · have htaken : sc.Serves (sc.onSession ({ · with response := none })) :=
      ⟨.refl _, rfl, [], .still rfl rfl rfl rfl rfl rfl⟩
    exact htaken.trans (serves_handleAll t _ (Match.Model.ofMatch_applyTable t.now _ _))

theorem yields_receive (line : Line) : sc.Yields (sc.receive t line).2 := by
  unfold receive
  cases line.kind with
  | version | other => exact .inl (.refl sc)
  | authenticated =>
      obtain ⟨events, hevents⟩ := sc.session.receiveAuthenticated_advances t.now line
      exact .inl ⟨.refl _, rfl, events, hevents⟩
  | error =>
      rcases sc.session.receiveError_cases t line with ⟨events, hevents⟩ | ⟨hparts, hended⟩
      · exact .inl ⟨.refl _, rfl, events, hevents⟩
      · exact .inr ⟨sc, .refl sc, rfl, rfl, hparts, hended⟩
  | echo => exact .inl ⟨.refl _, rfl, [], .still rfl rfl rfl rfl rfl rfl⟩
  | response =>
      obtain ⟨events, hevents⟩ := sc.session.receiveResponse_advances t.now line
      exact .inl ⟨.refl _, rfl, events, hevents⟩
  | log =>
      dsimp only
      split
      · exact .inl (sc.serves_handleAll t (Match.Model.ofMatch_apply t.now _ _))
      · exact .inl (.refl sc)

theorem yields_absorb (line : Line) : sc.Yields (sc.absorb t line).2 := by
  have hanswer : sc.Serves (if line.kind = .response then sc else sc.finishResponse t) := by
    split
    · exact .refl sc
    · exact sc.serves_finishResponse t
  unfold absorb
  refine hanswer.yields ?_
  generalize (if line.kind = .response then sc else sc.finishResponse t) = sc
  dsimp only
  rcases sc.yields_receive t line with hserves | ⟨between, hserves, hfalls⟩
  · exact .inl (hserves.trans ⟨.refl _, rfl, [], Session.syncTravelling_advances _⟩)
  · -- a session without a connection has no map to follow
    obtain ⟨reason, hsame⟩ := hfalls.session.same
    have hstill : (sc.receive t line).2.onSession (·.syncTravelling) = (sc.receive t line).2 := by
      generalize (sc.receive t line).2 = after at hsame
      obtain ⟨host, session, journal⟩ := after
      dsimp only at hsame
      rw [hsame]
      rfl
    exact .inr ⟨between, hserves, hstill.symm ▸ hfalls⟩

theorem yields_banner (line : Bytes) : sc.Yields (sc.onSession (·.receiveBanner t line)) := by
  rcases sc.session.receiveBanner_cases t line with
    ⟨delimiter, protocol, gameVersion, hspeaks⟩ | ⟨hparts, hended⟩
  · have hnoted : Advances [] sc.session
        { sc.session with delimiter, protocol, gameVersion } := .still rfl rfl rfl rfl rfl rfl
    exact .inl ⟨.refl _, rfl, [], hnoted.speaks hspeaks⟩
  · exact .inr ⟨sc, .refl sc, rfl, rfl, hparts, hended⟩

def Reacts (read : Scene) : Prop :=
  (∃ line, read = sc.onSession (·.receiveBanner t line)) ∨ ∃ line, read = (sc.absorb t line).2

theorem Reacts.yields {t : Moment} {sc read : Scene} (h : Reacts t sc read) : sc.Yields read := by
  rcases h with ⟨line, rfl⟩ | ⟨line, rfl⟩
  · exact sc.yields_banner t line
  · exact sc.yields_absorb t line

/-- A line that cannot be read does nothing. Of any other, and of all that it caused, observers hear
once it has had its effect. -/
theorem processLine_cases (line : Bytes) :
    sc.processLine t line = sc ∨ ∃ read heard text, sc.Reacts t read ∧
      (heard = read.flush t ∨ ∃ line, heard = (read.flush t).deliverOther t line) ∧
      sc.processLine t line = heard.deliverRaw t text := by
  unfold processLine
  split
  · exact .inr ⟨_, _, _, .inl ⟨line, rfl⟩, .inl rfl, rfl⟩
  · split
    · exact .inl rfl
    · rename_i line _
      refine .inr ⟨_, _, line.raw, .inr ⟨line, rfl⟩, ?_, sc.processFields_eq t line⟩
      split
      · exact .inl rfl
      · exact .inr ⟨line, rfl⟩

theorem banPlayer_speaks (id : PlayerId) (banner reason : String) (duration : UInt64) :
    ∃ model, Session.Speaks { sc.session with model }
      (sc.banPlayer t id banner reason duration).2.session := by
  unfold banPlayer
  cases sc.session.model.player? id with
  | none => exact ⟨sc.session.model, sc.session.request_speaks t.now _⟩
  | some p => exact ⟨_, Session.request_speaks _ t.now _⟩

theorem serves_banPlayer (id : PlayerId) (banner reason : String) (duration : UInt64) :
    sc.Serves (sc.banPlayer t id banner reason duration).2 := by
  obtain ⟨model, hspeaks⟩ := sc.banPlayer_speaks t id banner reason duration
  have hedited : Advances [] sc.session { sc.session with model } :=
    .still rfl rfl rfl rfl rfl rfl
  refine ⟨?_, ?_, [], hedited.speaks hspeaks⟩
  · unfold banPlayer
    cases sc.session.model.player? id with
    | none => exact .refl sc.host
    | some p => exact sc.host.sameBut_addBan t.now _ _ _ _ _
  · unfold banPlayer
    cases sc.session.model.player? id <;> rfl

end Scene

end RemoteConsole
