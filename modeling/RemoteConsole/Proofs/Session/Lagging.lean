import RemoteConsole.Proofs.Session.Conduct

namespace RemoteConsole.Session

open Wire (Line Bytes)

/-- The session has yet to tell of the pending events. Only without a connection may there be any,
and may plans for the end of the match and what is kept in mind differ; what has been read of the
next line may differ anyway. -/
structure Lags (pending : List Event) (s ahead : Session) : Prop where
  same : ahead = { s with
    queue := ahead.queue
    framer := ahead.framer
    lastReceived := ahead.lastReceived
    gameoverAt := ahead.gameoverAt
    gameoverWhenEmpty := ahead.gameoverWhenEmpty
    memory := ahead.memory }
  queue : s.queue = pending ++ ahead.queue
  online : s.socket = true → pending = [] ∧
    ahead.gameoverAt = s.gameoverAt ∧ ahead.gameoverWhenEmpty = s.gameoverWhenEmpty ∧
      ahead.memory = s.memory

namespace Lags

theorem refl (s : Session) : s.Lags [] s :=
  ⟨rfl, rfl, fun _ => ⟨rfl, rfl, rfl, rfl⟩⟩

variable {pending : List Event} {s ahead after : Session} (h : s.Lags pending ahead)

include h

theorem socket : ahead.socket = s.socket := by
  rw [h.same]

theorem stage : ahead.stage = s.stage := by
  rw [h.same]

theorem model : ahead.model = s.model := by
  rw [h.same]

theorem settings : ahead.settings = s.settings := by
  rw [h.same]

theorem delimiter : ahead.delimiter = s.delimiter := by
  rw [h.same]

theorem response : ahead.response = s.response := by
  rw [h.same]

theorem terminated : ahead.terminated = s.terminated := by
  rw [h.same]

theorem outbound : ahead.outbound = s.outbound := by
  rw [h.same]

theorem reads (framer : Wire.Framer) (lastReceived : Instant) :
    s.Lags pending { ahead with framer, lastReceived } :=
  ⟨by rw [h.same], h.queue, h.online⟩

theorem editModel (f : Match.Model → Match.Model) :
    Lags pending { s with model := f s.model } { ahead with model := f ahead.model } :=
  ⟨by rw [h.same], h.queue, h.online⟩

theorem emit (e : Event) : (s.emit e).Lags pending (ahead.emit e) where
  same := by
    rw [h.same]
    rfl
  queue := by rw [Session.emit, Session.emit, h.queue, List.append_assoc]
  online := h.online

theorem request (now : Instant) (r : Wire.Request) :
    (s.request now r).2.Lags pending (ahead.request now r).2 := by
  unfold Session.request
  rw [h.socket]
  split
  · exact ⟨by rw [h.same], h.queue, h.online⟩
  · exact h

theorem sendAll (now : Instant) (commands : List String) :
    (s.sendAll now commands).Lags pending (ahead.sendAll now commands) := by
  unfold Session.sendAll
  induction commands generalizing s ahead with
  | nil => exact h
  | cons command commands ih => exact ih (h.request now (.execute command))

theorem terminate (reason : String) :
    (s.terminate reason).Lags pending (ahead.terminate reason) where
  same := by
    rw [h.same]
    rfl
  queue := by
    change (if s.socket then s.queue ++ [.disconnected reason] else s.queue) =
      pending ++ if ahead.socket then ahead.queue ++ [.disconnected reason] else ahead.queue
    rw [h.socket, h.queue]
    split
    · exact List.append_assoc _ _ _
    · rfl
  online := nofun

theorem fail {f : Fault} (hf : f.isTerminal) (t : Moment) :
    (s.fail t f).Lags pending (ahead.fail t f) := by
  rw [Session.fail, Session.fail, if_pos hf, if_pos hf]
  exact h.terminate _

theorem receiveBanner (t : Moment) (line : Bytes) :
    (s.receiveBanner t line).Lags pending (ahead.receiveBanner t line) := by
  unfold Session.receiveBanner
  split
  · exact h.fail rfl t
  · split
    · exact h.fail rfl t
    · dsimp only
      rw [h.settings]
      refine request ?_ t.now _
      exact ⟨by rw [h.same], h.queue, h.online⟩

theorem receiveAuthenticated (now : Instant) (line : Line) :
    (s.receiveAuthenticated now line).Lags pending (ahead.receiveAuthenticated now line) := by
  unfold Session.receiveAuthenticated
  rw [h.stage]
  split
  · exact h
  · refine emit (sendAll (request ?_ now _) now _) _
    exact ⟨by rw [h.same], h.queue, h.online⟩

theorem receiveError (t : Moment) (line : Line) :
    (s.receiveError t line).Lags pending (ahead.receiveError t line) := by
  unfold Session.receiveError
  rw [h.stage]
  dsimp only
  split
  · exact h.fail rfl t
  · exact h.emit _

theorem receiveResponse (now : Instant) (line : Line) :
    (s.receiveResponse now line).Lags pending (ahead.receiveResponse now line) := by
  unfold Session.receiveResponse Session.receivePong
  rw [h.stage, h.response]
  dsimp only
  split
  · split
    · refine emit ?_ .fullyConnected
      exact ⟨by rw [h.same], h.queue, h.online⟩
    · exact ⟨by rw [h.same], h.queue, h.online⟩
  · exact ⟨by rw [h.same], h.queue, h.online⟩

theorem syncTravelling : s.syncTravelling.Lags pending ahead.syncTravelling := by
  unfold Session.syncTravelling
  rw [h.stage, h.model]
  split
  · exact ⟨by rw [h.same], h.queue, h.online⟩
  · exact ⟨by rw [h.same], h.queue, h.online⟩
  · exact h

theorem endMatch (now : Instant) (delay : Millis) :
    (s.endMatch now delay).Lags pending (ahead.endMatch now delay) := by
  have hplanned : Lags pending { s with gameoverAt := some (now.after delay) }
      { ahead with gameoverAt := some (now.after delay) } := by
    refine ⟨by rw [h.same], h.queue, fun hsocket => ?_⟩
    obtain ⟨hpending, -, hkept⟩ := h.online hsocket
    exact ⟨hpending, rfl, hkept⟩
  unfold Session.endMatch
  dsimp only
  split
  · exact hplanned
  · exact hplanned.request now _

theorem act {a : Action} (ha : a.closes = false) (t : Moment) :
    (s.act t a).2.Lags pending (ahead.act t a).2 := by
  cases a with
  | send | say | announce | tell | kick => exact h.request t.now _
  | endMatch delay => exact h.endMatch t.now delay
  | endMatchWhenEmpty =>
      refine ⟨?_, h.queue, fun hsocket => ?_⟩
      · change { ahead with gameoverWhenEmpty := true } = _
        rw [h.same]
        rfl
      · obtain ⟨hpending, hat, -, hmemory⟩ := h.online hsocket
        exact ⟨hpending, hat, rfl, hmemory⟩
  | keepMatch =>
      refine ⟨?_, h.queue, fun hsocket => ?_⟩
      · change { ahead with gameoverAt := none, gameoverWhenEmpty := false } = _
        rw [h.same]
        rfl
      · obtain ⟨hpending, -, -, hmemory⟩ := h.online hsocket
        exact ⟨hpending, rfl, rfl, hmemory⟩
  | remember memory =>
      refine ⟨?_, h.queue, fun hsocket => ?_⟩
      · change { ahead with memory } = _
        rw [h.same]
        rfl
      · obtain ⟨hpending, hat, hempty, -⟩ := h.online hsocket
        exact ⟨hpending, hat, hempty, rfl⟩
  | askWait | askModel => exact h
  | disconnect | terminate => cases ha

theorem speaks {ahead' : Session} (hsocket : s.socket = false) (hs : s.Speaks after)
    (hahead : ahead.Speaks ahead') : after.Lags pending ahead' := by
  rw [hs.silent hsocket, hahead.silent (h.socket.trans hsocket)]
  refine ⟨by rw [h.same], h.queue, fun hopen => ?_⟩
  exact absurd (hsocket.symm.trans hopen) (by decide)

end Lags

end RemoteConsole.Session
