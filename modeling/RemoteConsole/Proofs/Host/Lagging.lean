import RemoteConsole.Proofs.Host.Serving
import RemoteConsole.Proofs.Host.Telling
import RemoteConsole.Proofs.Session.Lagging

namespace RemoteConsole

open Session (Action)
open Wire (Line Bytes)

theorem Host.SameBut.callbacks {h after : Host} (hsame : h.SameBut after) :
    after.callbacks = h.callbacks := by
  rw [hsame]
  rfl

namespace Scene

/-- The scene has yet to tell of the pending events, and is otherwise the same. -/
structure Lags (pending : List Event) (sc ahead : Scene) : Prop where
  host : ahead.host = sc.host
  session : sc.session.Lags pending ahead.session
  told : ahead.told = sc.told ++ pending.flatMap sc.host.callbacks

namespace Lags

theorem refl (sc : Scene) : Lags [] sc sc :=
  ⟨rfl, .refl _, (List.append_nil _).symm⟩

variable {pending : List Event} {sc ahead : Scene} (h : Lags pending sc ahead)

include h

theorem onSession {s s' : Session} (hs : s.Lags pending s') :
    Lags pending { sc with session := s } { ahead with session := s' } :=
  ⟨h.host, hs, h.told⟩

theorem onHost {host : Host} (hhost : sc.host.SameBut host) :
    Lags pending { sc with host } { ahead with host } :=
  ⟨rfl, h.session, by rw [hhost.callbacks]; exact h.told⟩

variable (t : Moment)

theorem screen (id : PlayerId) : (ahead.screen t id).1 = (sc.screen t id).1 ∧
    Lags pending (sc.screen t id).2 (ahead.screen t id).2 := by
  unfold Scene.screen
  rw [h.session.model, h.host, h.session.settings]
  split
  · exact ⟨rfl, h⟩
  · dsimp only
    split
    · exact ⟨rfl, (h.onHost (sc.host.sameBut_checkBans t.now _)).onSession
        (h.session.editModel fun model => model.edit id _)⟩
    · exact ⟨rfl, (h.onHost (.refl sc.host)).onSession
        (h.session.editModel fun model => model.edit id _)⟩

theorem screened (p : Match.Player) :
    (ahead.screened t p).1 = (sc.screened t p).1 ∧
      (ahead.screened t p).2.1 = (sc.screened t p).2.1 ∧
      Lags pending (sc.screened t p).2.2 (ahead.screened t p).2.2 := by
  obtain ⟨hkinds, hscreened⟩ := h.screen t p.id
  refine ⟨hkinds, ?_, hscreened⟩
  change ((ahead.screen t p.id).2.session.model.player? p.id).getD p = _
  rw [hscreened.session.model]
  rfl

theorem finishMatch (outcome : GameLog.Outcome) :
    Lags pending (sc.finishMatch t outcome) (ahead.finishMatch t outcome) := by
  have hforgot : Lags pending
      (sc.onSession fun s => { s with gameoverAt := none, gameoverWhenEmpty := false })
      (ahead.onSession fun s => { s with gameoverAt := none, gameoverWhenEmpty := false }) := by
    refine h.onSession ⟨by rw [h.session.same], h.session.queue, fun hsocket => ?_⟩
    obtain ⟨hpending, -, -, hmemory⟩ := h.session.online hsocket
    exact ⟨hpending, rfl, rfl, hmemory⟩
  unfold Scene.finishMatch
  generalize sc.onSession _ = sc at hforgot ⊢
  generalize ahead.onSession _ = ahead at hforgot ⊢
  dsimp only
  rw [hforgot.session.settings, hforgot.session.model, hforgot.host]
  split
  · exact hforgot.onHost (sc.host.sameBut_credit t.now _ _ _)
  · exact hforgot

theorem attend (e : Event) :
    (ahead.attend t e).1 = (sc.attend t e).1 ∧ (ahead.attend t e).2.1 = (sc.attend t e).2.1 ∧
      Lags pending (sc.attend t e).2.2 (ahead.attend t e).2.2 := by
  cases e with
  | playerJoin p =>
      obtain ⟨hkinds, hplayer, hscreened⟩ := h.screened t p
      exact ⟨hkinds, congrArg Event.playerJoin hplayer, hscreened⟩
  | playerDiscovered p =>
      obtain ⟨hkinds, hplayer, hscreened⟩ := h.screened t p
      exact ⟨hkinds, congrArg Event.playerDiscovered hplayer, hscreened⟩
  | matchEnd outcome => exact ⟨rfl, rfl, h.finishMatch t outcome⟩
  | mapStart map => exact ⟨rfl, rfl, h.onSession (h.session.sendAll t.now _)⟩
  | _ => exact ⟨rfl, rfl, h⟩

theorem handle (e : Event) : Lags pending (sc.handle t e) (ahead.handle t e) := by
  obtain ⟨hkinds, hevent, hattended⟩ := h.attend t e
  unfold Scene.handle
  generalize sc.attend t e = served at hkinds hevent hattended ⊢
  generalize ahead.attend t e = first at hkinds hevent hattended ⊢
  obtain ⟨kinds, e, sc⟩ := served
  obtain ⟨kinds', e', ahead⟩ := first
  cases hkinds
  cases hevent
  have hqueued := hattended.onSession (hattended.session.emit e)
  dsimp only
  split
  · exact hqueued
  · split
    · exact hqueued
    · split
      · refine hqueued.onSession (Session.Lags.emit ?_ _)
        exact hqueued.session.request t.now _
      · exact hqueued.onSession (hqueued.session.emit _)

theorem handleAll (r : Match.Model × List Event) :
    Lags pending (sc.handleAll t r) (ahead.handleAll t r) := by
  have hmodel : Lags pending (sc.onSession ({ · with model := r.1 }))
      (ahead.onSession ({ · with model := r.1 })) :=
    h.onSession (h.session.editModel fun _ => r.1)
  unfold Scene.handleAll
  generalize sc.onSession ({ · with model := r.1 }) = sc at hmodel ⊢
  generalize ahead.onSession ({ · with model := r.1 }) = ahead at hmodel ⊢
  induction r.2 generalizing sc ahead with
  | nil => exact hmodel
  | cons e events ih => exact ih _ _ (hmodel.handle t e)

theorem finishResponse : Lags pending (sc.finishResponse t) (ahead.finishResponse t) := by
  unfold Scene.finishResponse
  rw [h.session.response]
  split
  · exact h
  · have htaken : Lags pending (sc.onSession ({ · with response := none }))
        (ahead.onSession ({ · with response := none })) :=
      h.onSession ⟨by rw [h.session.same], h.session.queue, h.session.online⟩
    dsimp only
    rw [htaken.session.model]
    exact htaken.handleAll t _

theorem receive (line : Line) : (ahead.receive t line).1 = (sc.receive t line).1 ∧
    Lags pending (sc.receive t line).2 (ahead.receive t line).2 := by
  unfold Scene.receive
  cases line.kind with
  | version | other => exact ⟨rfl, h⟩
  | authenticated => exact ⟨rfl, h.onSession (h.session.receiveAuthenticated t.now line)⟩
  | error => exact ⟨rfl, h.onSession (h.session.receiveError t line)⟩
  | echo =>
      exact ⟨rfl, h.onSession ⟨by rw [h.session.same], h.session.queue, h.session.online⟩⟩
  | response => exact ⟨rfl, h.onSession (h.session.receiveResponse t.now line)⟩
  | log =>
      dsimp only
      rw [h.session.model]
      split
      · exact ⟨rfl, h.handleAll t _⟩
      · exact ⟨rfl, h⟩

theorem absorb (line : Line) : (ahead.absorb t line).1 = (sc.absorb t line).1 ∧
    Lags pending (sc.absorb t line).2 (ahead.absorb t line).2 := by
  have hanswer : Lags pending (if line.kind = .response then sc else sc.finishResponse t)
      (if line.kind = .response then ahead else ahead.finishResponse t) := by
    split
    · exact h
    · exact h.finishResponse t
  obtain ⟨hrecognised, hreceived⟩ := hanswer.receive t line
  exact ⟨hrecognised, hreceived.onSession hreceived.session.syncTravelling⟩

end Lags

end Scene

end RemoteConsole
