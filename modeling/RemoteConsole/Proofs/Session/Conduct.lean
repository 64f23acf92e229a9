import RemoteConsole.Host.Turn

namespace RemoteConsole

open Wire (Line Bytes)

def EventKind.ofSession : EventKind → Bool
  | .connected | .authenticated | .fullyConnected | .disconnected => true
  | _ => false

def sessionKinds (events : List Event) : List EventKind :=
  (events.map Event.kind).filter EventKind.ofSession

@[simp] theorem sessionKinds_nil : sessionKinds [] = [] :=
  rfl

@[simp] theorem sessionKinds_append (events more : List Event) :
    sessionKinds (events ++ more) = sessionKinds events ++ sessionKinds more := by
  simp [sessionKinds]

theorem sessionKinds_of_others {events : List Event}
    (h : ∀ e ∈ events, e.kind.ofSession = false) : sessionKinds events = [] := by
  simpa [sessionKinds, List.filter_eq_nil_iff] using h

namespace Session

/-- What has been told of a connection by the time it has come so far. -/
def Stage.history : Stage → List EventKind
  | .disconnected | .connecting => []
  | .handshaking => [.connected]
  | .subscribing => [.connected, .authenticated]
  | .fullyConnected | .travelling => [.connected, .authenticated, .fullyConnected]

def Action.closes : Action → Bool
  | .disconnect _ | .terminate _ => true
  | _ => false

/-- Requests may have been queued, plans for the end of the match made or given up, and something
kept in mind. Without a connection no requests are queued. -/
structure Speaks (s after : Session) : Prop where
  same : after = { s with
    outbound := after.outbound
    lastSend := after.lastSend
    lastRoster := after.lastRoster
    pingSentAt := after.pingSentAt
    gameoverAt := after.gameoverAt
    gameoverWhenEmpty := after.gameoverWhenEmpty
    memory := after.memory }
  silent : s.socket = false → after = { s with
    gameoverAt := after.gameoverAt
    gameoverWhenEmpty := after.gameoverWhenEmpty
    memory := after.memory }

/-- Events of the game have been seen to. Nothing has become of the connection by it, nor of what is
coming in over it. -/
structure Tends (s after : Session) : Prop where
  same : after = { s with
    model := after.model
    queue := after.queue
    outbound := after.outbound
    lastSend := after.lastSend
    lastRoster := after.lastRoster
    pingSentAt := after.pingSentAt
    gameoverAt := after.gameoverAt
    gameoverWhenEmpty := after.gameoverWhenEmpty
    memory := after.memory }

/-- The connection has been dropped, and with it the session or only this attempt. -/
structure Parts (s after : Session) : Prop where
  same : ∃ reason, after = { s.close reason with
    attempts := after.attempts
    nextAttempt := after.nextAttempt
    terminated := after.terminated }
  ended : s.terminated.isSome → after.terminated.isSome

/-- The connection, or the lack of one, is as before. The events tell how far it has come. -/
structure Advances (events : List Event) (s after : Session) : Prop where
  queue : after.queue = s.queue ++ events
  history : after.stage.history = s.stage.history ++ sessionKinds events
  isOpen : after.stage.isOpen = s.stage.isOpen
  connecting : after.stage = .connecting ↔ s.stage = .connecting
  socket : after.socket = s.socket
  dialing : after.dialing = s.dialing
  framer : after.framer = s.framer
  terminated : after.terminated = s.terminated

section Relations

variable {s between after : Session}

theorem Speaks.refl (s : Session) : s.Speaks s :=
  ⟨rfl, fun _ => rfl⟩

theorem Speaks.trans (h : s.Speaks between) (h' : between.Speaks after) : s.Speaks after where
  same := by rw [h'.same, h.same]
  silent hsocket := by
    have hstill : between.socket = false := by rw [h.same]; exact hsocket
    rw [h'.silent hstill, h.silent hsocket]

theorem Speaks.plans (gameoverAt : Option Instant) (whenEmpty : Bool) :
    s.Speaks { s with gameoverAt, gameoverWhenEmpty := whenEmpty } :=
  ⟨rfl, fun _ => rfl⟩

theorem Tends.refl (s : Session) : s.Tends s :=
  ⟨rfl⟩

theorem Tends.trans (h : s.Tends between) (h' : between.Tends after) : s.Tends after where
  same := by rw [h'.same, h.same]

theorem Tends.emit (h : s.Tends after) (e : Event) : s.Tends (after.emit e) :=
  h.trans ⟨rfl⟩

theorem Speaks.tends (h : s.Speaks after) : s.Tends after where
  same := by rw [h.same]

theorem Advances.still (hqueue : after.queue = s.queue) (hstage : after.stage = s.stage)
    (hsocket : after.socket = s.socket) (hdialing : after.dialing = s.dialing)
    (hframer : after.framer = s.framer) (hterminated : after.terminated = s.terminated) :
    Advances [] s after where
  queue := by simp [hqueue]
  history := by simp [hstage]
  isOpen := by rw [hstage]
  connecting := by rw [hstage]
  socket := hsocket
  dialing := hdialing
  framer := hframer
  terminated := hterminated

theorem Advances.refl (s : Session) : Advances [] s s :=
  .still rfl rfl rfl rfl rfl rfl

theorem Advances.trans {events more : List Event} (h : Advances events s between)
    (h' : Advances more between after) : Advances (events ++ more) s after where
  queue := by rw [h'.queue, h.queue, List.append_assoc]
  history := by rw [h'.history, h.history, sessionKinds_append, List.append_assoc]
  isOpen := h'.isOpen.trans h.isOpen
  connecting := h'.connecting.trans h.connecting
  socket := h'.socket.trans h.socket
  dialing := h'.dialing.trans h.dialing
  framer := h'.framer.trans h.framer
  terminated := h'.terminated.trans h.terminated

theorem Speaks.advances (h : s.Speaks after) : Advances [] s after := by
  rw [h.same]
  exact .still rfl rfl rfl rfl rfl rfl

theorem Advances.speaks {events : List Event} (h : Advances events s between)
    (h' : between.Speaks after) : Advances events s after := by
  simpa using h.trans h'.advances

end Relations

variable (s : Session)

section Speaking

theorem request_speaks (now : Instant) (r : Wire.Request) : s.Speaks (s.request now r).2 := by
  unfold request
  split
  · rename_i hsocket
    exact ⟨rfl, fun hnone => absurd (hsocket.symm.trans hnone) (by decide)⟩
  · exact .refl s

theorem sendAll_speaks (now : Instant) (commands : List String) :
    s.Speaks (s.sendAll now commands) := by
  unfold sendAll
  induction commands generalizing s with
  | nil => exact .refl s
  | cons command commands ih => exact (s.request_speaks now _).trans (ih _)

theorem endMatch_speaks (now : Instant) (delay : Millis) : s.Speaks (s.endMatch now delay) := by
  have hplanned := Speaks.plans (s := s) (some (now.after delay)) s.gameoverWhenEmpty
  unfold endMatch
  dsimp only
  split
  · exact hplanned
  · exact hplanned.trans (request_speaks _ now _)

end Speaking

section Parting

theorem terminate_parts (reason : String) : s.Parts (s.terminate reason) :=
  ⟨⟨reason, rfl⟩, fun _ => rfl⟩

theorem disconnect_parts (t : Moment) (reason : String) : s.Parts (s.disconnect t reason) := by
  unfold disconnect retry
  dsimp only
  split
  · exact ⟨⟨reason, rfl⟩, fun _ => rfl⟩
  · exact ⟨⟨reason, rfl⟩, id⟩

theorem fail_parts (t : Moment) (f : Fault) : s.Parts (s.fail t f) := by
  unfold fail
  split
  · exact s.terminate_parts _
  · exact s.disconnect_parts t _

theorem fail_terminated {f : Fault} (h : f.isTerminal) (t : Moment) :
    (s.fail t f).terminated.isSome := by
  rw [fail, if_pos h]
  rfl

end Parting

theorem act_speaks {a : Action} (h : a.closes = false) (t : Moment) : s.Speaks (s.act t a).2 := by
  cases a with
  | send | say | announce | tell | kick => exact s.request_speaks t.now _
  | endMatch delay => exact s.endMatch_speaks t.now delay
  | endMatchWhenEmpty => exact .plans s.gameoverAt true
  | keepMatch => exact .plans none false
  | remember => exact ⟨rfl, fun _ => rfl⟩
  | askWait | askModel => exact .refl s
  | disconnect | terminate => cases h

theorem act_cases (t : Moment) (a : Action) : s.Speaks (s.act t a).2 ∨ s.Parts (s.act t a).2 := by
  cases a with
  | disconnect reason => exact .inr (s.disconnect_parts t reason)
  | terminate reason => exact .inr (s.terminate_parts reason)
  | _ => exact .inl (s.act_speaks rfl t)

section Timers

variable (t : Moment)

theorem keepalive_cases : s.Speaks (s.keepalive t) ∨ s.Parts (s.keepalive t) := by
  unfold keepalive
  split
  · split
    · exact .inr (s.fail_parts t _)
    · exact .inl (.refl s)
  · left
    dsimp only
    split
    · have hsent := s.request_speaks t.now (.execute (ping keepaliveToken))
      split
      · rename_i hqueued
        -- bytes were queued, so there is a connection
        have hsocket : s.socket ≠ false := by
          intro hnone
          simp [send, request, hnone] at hqueued
        exact hsent.trans ⟨rfl, fun hnone => absurd (hsent.advances.socket ▸ hnone) hsocket⟩
      · exact hsent
    · exact .refl s

theorem endPlannedMatch_speaks (now : Instant) : s.Speaks (s.endPlannedMatch now) := by
  unfold endPlannedMatch
  split
  · split
    · exact (Speaks.plans none _).trans (request_speaks _ now (.execute "gameover"))
    · exact .refl s
  · exact .refl s

theorem endEmptyMatch_speaks (now : Instant) : s.Speaks (s.endEmptyMatch now) := by
  unfold endEmptyMatch
  split
  · exact (Speaks.plans _ false).trans (request_speaks _ now (.execute "gameover"))
  · exact .refl s

theorem runTimers_cases : s.Speaks (s.runTimers t) ∨ s.Parts (s.runTimers t) := by
  unfold runTimers
  dsimp only
  split
  · split
    · exact .inr (s.fail_parts t _)
    · exact .inl (.refl s)
  · split
    · exact .inr (s.fail_parts t _)
    · split
      · rename_i hsocket
        rcases s.keepalive_cases t with hkept | hparted
        · left
          refine hkept.trans ?_
          generalize s.keepalive t = s at hsocket
          have hroster : s.Speaks (s.refreshRoster t.now) := by
            unfold refreshRoster
            split
            · have hnoted : s.Speaks { s with lastRoster := t.now } :=
                ⟨rfl, fun hnone => absurd (hsocket.symm.trans hnone) (by decide)⟩
              exact hnoted.trans (sendAll_speaks _ t.now _)
            · exact .refl s
          have hplanned := hroster.trans (endPlannedMatch_speaks _ t.now)
          exact hplanned.trans (endEmptyMatch_speaks _ t.now)
        · obtain ⟨reason, hsame⟩ := hparted.same
          rw [hsame] at hsocket
          cases hsocket
      · exact s.keepalive_cases t

theorem drainOutbound_cases (out : Outflow) :
    (s.drainOutbound t out = { s with outbound := (s.drainOutbound t out).outbound } ∧
        (s.socket = false → (s.drainOutbound t out).outbound = [])) ∨
      s.Parts (s.drainOutbound t out) := by
  unfold drainOutbound
  split
  · rename_i hempty
    exact .inl ⟨rfl, fun _ => List.isEmpty_iff.1 hempty⟩
  · split
    · exact .inl ⟨rfl, fun _ => rfl⟩
    · rename_i hsocket
      cases out with
      | took bytes => exact .inl ⟨rfl, fun hnone => absurd (by rw [hnone]; rfl) hsocket⟩
      | ended => exact .inr (s.fail_parts t _)
      | failed reason => exact .inr (s.fail_parts t _)

end Timers

section Receiving

variable (t : Moment)

theorem receiveBanner_cases (line : Bytes) :
    (∃ delimiter protocol gameVersion,
        Speaks { s with delimiter, protocol, gameVersion } (s.receiveBanner t line)) ∨
      s.Parts (s.receiveBanner t line) ∧ (s.receiveBanner t line).terminated.isSome := by
  unfold receiveBanner
  split
  · exact .inr ⟨s.fail_parts t _, s.fail_terminated rfl t⟩
  · split
    · exact .inr ⟨s.fail_parts t _, s.fail_terminated rfl t⟩
    · rename_i banner _ _ delimiter _
      exact .inl ⟨some delimiter, banner.protocol, banner.game, request_speaks _ t.now _⟩

theorem receiveError_cases (line : Line) :
    (∃ events, Advances events s (s.receiveError t line)) ∨
      s.Parts (s.receiveError t line) ∧ (s.receiveError t line).terminated.isSome := by
  unfold receiveError
  dsimp only
  split
  · exact .inr ⟨s.fail_parts t _, s.fail_terminated rfl t⟩
  · exact .inl ⟨[.serverError (line.joined " ")],
      ⟨rfl, (List.append_nil _).symm, rfl, Iff.rfl, rfl, rfl, rfl, rfl⟩⟩

theorem receiveAuthenticated_advances (now : Instant) (line : Line) :
    ∃ events, Advances events s (s.receiveAuthenticated now line) := by
  unfold receiveAuthenticated
  split
  · exact ⟨[], .refl s⟩
  · rename_i hstage
    rw [Decidable.not_not] at hstage
    have hasked (base : Session) (commands : List String) :
        base.Speaks ((base.request now .subscribe).2.sendAll now commands) :=
      (base.request_speaks now .subscribe).trans (sendAll_speaks _ now commands)
    dsimp only
    refine ⟨[.authenticated (line.field 0)], ?_⟩
    generalize hbase : ({ s with
      user := line.field 0, attempts := 0, stage := .subscribing, subscribedAt := some now } :
        Session) = base
    rw [(hasked base [rosterCommand, "binfo", "gameinfo", "rotation", ping initToken]).same,
      ← hbase]
    exact ⟨rfl, by rw [hstage]; rfl, by rw [hstage]; rfl, by rw [hstage]; exact ⟨nofun, nofun⟩,
      rfl, rfl, rfl, rfl⟩

theorem receiveResponse_advances (now : Instant) (line : Line) :
    ∃ events, Advances events s (s.receiveResponse now line) := by
  unfold receiveResponse receivePong
  dsimp only
  split
  · split
    · rename_i hdone
      refine ⟨[.fullyConnected], ⟨rfl, ?_, ?_, ?_, rfl, rfl, rfl, rfl⟩⟩
      · rw [show s.stage = .subscribing from hdone.2]
        rfl
      · rw [show s.stage = .subscribing from hdone.2]
        rfl
      · rw [show s.stage = .subscribing from hdone.2]
        exact ⟨nofun, nofun⟩
    · exact ⟨[], .still rfl rfl rfl rfl rfl rfl⟩
  · exact ⟨[], .still rfl rfl rfl rfl rfl rfl⟩

theorem syncTravelling_advances : Advances [] s s.syncTravelling := by
  unfold syncTravelling
  split
  · rename_i hstage _
    exact ⟨by simp, by simp [hstage, Stage.history], by simp [hstage, Stage.isOpen],
      by simp [hstage], rfl, rfl, rfl, rfl⟩
  · rename_i hstage _
    exact ⟨by simp, by simp [hstage, Stage.history], by simp [hstage, Stage.isOpen],
      by simp [hstage], rfl, rfl, rfl, rfl⟩
  · exact .refl s

end Receiving

end Session

end RemoteConsole
