import RemoteConsole.Proofs.Session.Conduct

namespace RemoteConsole

theorem Instant.millis_max (a b : Instant) : (a.max b).millis = Max.max a.millis b.millis := by
  rw [Instant.max]
  split <;> omega

namespace Instant

theorem since_self (t : Instant) : t.since t = 0 := by
  rw [since, Int.sub_self]
  rfl

theorem since_max_le (t a b : Instant) : t.since (a.max b) ≤ t.since a := by
  rw [since, since, millis_max]
  exact Int.toNat_le_toNat (by omega)

theorem le_since {t earlier : Instant} {d : Millis} (h : earlier.millis + d ≤ t.millis) :
    d ≤ t.since earlier := by
  rw [since]
  exact (Int.le_toNat (by omega)).2 (by omega)

theorem since_lt {t earlier : Instant} {d : Millis} (h : t.millis < earlier.millis + d)
    (hearlier : earlier.millis ≤ t.millis) : t.since earlier < d := by
  rw [since]
  exact (Int.toNat_lt (by omega)).2 (by omega)

end Instant

theorem Wire.Request.encode_length_pos (r : Wire.Request) : 0 < r.encode.length := by
  rw [encode, List.cons_append, List.length_cons]
  exact Nat.succ_pos _

namespace Session

open Wire (Line Bytes)

def Stage.isAccepted : Stage → Bool
  | .subscribing | .fullyConnected | .travelling => true
  | .disconnected | .connecting | .handshaking => false

theorem Stage.isOpen_of_isAccepted {stage : Stage} (h : stage.isAccepted = true) :
    stage.isOpen = true := by
  cases stage <;> first | rfl | cases h

structure Aligned (s : Session) : Prop where
  socket : s.socket = s.stage.isOpen
  ended : s.terminated.isSome → s.socket = false

theorem Aligned.accepted {s : Session} (h : s.Aligned) (hsocket : s.socket = true)
    (hstage : s.stage ≠ .handshaking) : s.stage.isAccepted = true := by
  have hopen : s.stage.isOpen = true := h.socket.symm.trans hsocket
  cases hs : s.stage <;> simp_all [Stage.isOpen, Stage.isAccepted]

structure Listens (now : Instant) (s after : Session) : Prop where
  settings : after.settings = s.settings
  lastReceived : after.lastReceived = s.lastReceived ∨ after.lastReceived = now
  aligned : s.Aligned → after.Aligned

structure Carries (s after : Session) : Prop where
  settings : after.settings = s.settings
  lastReceived : after.lastReceived = s.lastReceived
  aligned : s.Aligned → after.Aligned

/-- Neither has anything arrived, nor has a ping been sent or answered. Other requests may have been
queued; and the connection may be gone. -/
structure Waits (now : Instant) (s after : Session) : Prop extends Carries s after where
  socket : after.socket = true → s.socket = true
  accepted : after.socket = true → after.stage.isAccepted = s.stage.isAccepted
  pingSentAt : after.socket = true → after.pingSentAt = s.pingSentAt
  lastSend : after.socket = true → after.lastSend = s.lastSend ∨ after.lastSend = now

structure Lingers (s after : Session) : Prop where
  settings : after.settings = s.settings
  lastReceived : after.lastReceived = s.lastReceived
  accepted : after.stage.isAccepted = s.stage.isAccepted
  pingSentAt : ∀ sent, s.pingSentAt = some sent → after.pingSentAt = some sent

section Relations

variable {s between after : Session} {now : Instant}

theorem Listens.trans (h : s.Listens now between) (h' : between.Listens now after) :
    s.Listens now after where
  settings := h'.settings.trans h.settings
  lastReceived := by
    rcases h'.lastReceived with hsame | hnow
    · rw [hsame]
      exact h.lastReceived
    · exact .inr hnow
  aligned := h'.aligned ∘ h.aligned

theorem Carries.listens (h : s.Carries after) : s.Listens now after :=
  ⟨h.settings, .inl h.lastReceived, h.aligned⟩

theorem Carries.refl (s : Session) : s.Carries s :=
  ⟨rfl, rfl, id⟩

theorem Carries.trans (h : s.Carries between) (h' : between.Carries after) : s.Carries after where
  settings := h'.settings.trans h.settings
  lastReceived := h'.lastReceived.trans h.lastReceived
  aligned := h'.aligned ∘ h.aligned

theorem Waits.still (hsettings : after.settings = s.settings)
    (hlastReceived : after.lastReceived = s.lastReceived) (hsocket : after.socket = s.socket)
    (hstage : after.stage = s.stage) (hterminated : after.terminated = s.terminated)
    (hping : after.pingSentAt = s.pingSentAt)
    (hlastSend : after.lastSend = s.lastSend ∨ after.lastSend = now) : s.Waits now after where
  settings := hsettings
  lastReceived := hlastReceived
  aligned h := ⟨by rw [hsocket, hstage, h.socket], by rw [hterminated, hsocket]; exact h.ended⟩
  socket := hsocket.symm.trans
  accepted _ := by rw [hstage]
  pingSentAt _ := hping
  lastSend _ := hlastSend

theorem Waits.refl (s : Session) : s.Waits now s :=
  .still rfl rfl rfl rfl rfl rfl (.inl rfl)

theorem Waits.trans (h : s.Waits now between) (h' : between.Waits now after) :
    s.Waits now after where
  toCarries := h.toCarries.trans h'.toCarries
  socket hopen := h.socket (h'.socket hopen)
  accepted hopen := (h'.accepted hopen).trans (h.accepted (h'.socket hopen))
  pingSentAt hopen := (h'.pingSentAt hopen).trans (h.pingSentAt (h'.socket hopen))
  lastSend hopen := by
    rcases h'.lastSend hopen with hsame | hnow
    · rw [hsame]
      exact h.lastSend (h'.socket hopen)
    · exact .inr hnow

theorem Waits.lingers (h : s.Waits now after) (hopen : after.socket = true) : s.Lingers after :=
  ⟨h.settings, h.lastReceived, h.accepted hopen, fun _ => (h.pingSentAt hopen).trans⟩

theorem Lingers.refl (s : Session) : s.Lingers s :=
  ⟨rfl, rfl, rfl, fun _ => id⟩

theorem Lingers.trans (h : s.Lingers between) (h' : between.Lingers after) : s.Lingers after where
  settings := h'.settings.trans h.settings
  lastReceived := h'.lastReceived.trans h.lastReceived
  accepted := h'.accepted.trans h.accepted
  pingSentAt sent := h'.pingSentAt sent ∘ h.pingSentAt sent

theorem Parts.closed (h : s.Parts after) : after.socket = false := by
  obtain ⟨reason, hsame⟩ := h.same
  rw [hsame]
  rfl

theorem Parts.waits (h : s.Parts after) (now : Instant) : s.Waits now after := by
  obtain ⟨reason, hsame⟩ := h.same
  rw [hsame]
  exact ⟨⟨rfl, rfl, fun _ => ⟨rfl, fun _ => rfl⟩⟩, nofun, nofun, nofun, nofun⟩

theorem Tends.carries (h : s.Tends after) : s.Carries after := by
  rw [h.same]
  exact ⟨rfl, rfl, fun h => ⟨h.socket, h.ended⟩⟩

theorem Speaks.carries (h : s.Speaks after) : s.Carries after :=
  h.tends.carries

theorem Advances.aligned {events : List Event} (h : Advances events s after) (hs : s.Aligned) :
    after.Aligned :=
  ⟨by rw [h.socket, h.isOpen, hs.socket], by rw [h.terminated, h.socket]; exact hs.ended⟩

end Relations

variable (s : Session) (t : Moment)

section Waiting

theorem request_waits (now : Instant) (r : Wire.Request) : s.Waits now (s.request now r).2 := by
  rw [request]
  split
  · exact .still rfl rfl rfl rfl rfl rfl (.inr rfl)
  · exact .refl s

theorem sendAll_waits (now : Instant) (commands : List String) :
    s.Waits now (s.sendAll now commands) :=
  List.foldlRecOn (motive := s.Waits now) commands _ (.refl s)
    fun after hafter _ _ => hafter.trans (after.request_waits now _)

theorem endMatch_waits (now : Instant) (delay : Millis) : s.Waits now (s.endMatch now delay) := by
  have hplanned : s.Waits now { s with gameoverAt := some (now.after delay) } :=
    .still rfl rfl rfl rfl rfl rfl (.inl rfl)
  rw [endMatch]
  split
  · exact hplanned
  · exact hplanned.trans (request_waits _ now _)

theorem act_waits (a : Action) : s.Waits t.now (s.act t a).2 := by
  cases a with
  | send | say | announce | tell | kick => exact s.request_waits t.now _
  | endMatch delay => exact s.endMatch_waits t.now delay
  | endMatchWhenEmpty | keepMatch | remember => exact .still rfl rfl rfl rfl rfl rfl (.inl rfl)
  | askWait | askModel => exact .refl s
  | disconnect reason => exact (s.disconnect_parts t reason).waits t.now
  | terminate reason => exact (s.terminate_parts reason).waits t.now

theorem refreshRoster_waits (now : Instant) : s.Waits now (s.refreshRoster now) := by
  rw [refreshRoster]
  split
  · have hnoted : s.Waits now { s with lastRoster := now } :=
      .still rfl rfl rfl rfl rfl rfl (.inl rfl)
    exact hnoted.trans (sendAll_waits _ now _)
  · exact .refl s

theorem endPlannedMatch_waits (now : Instant) : s.Waits now (s.endPlannedMatch now) := by
  have hplanned : s.Waits now { s with gameoverAt := none } :=
    .still rfl rfl rfl rfl rfl rfl (.inl rfl)
  rw [endPlannedMatch]
  split
  · split
    · exact hplanned.trans (request_waits _ now _)
    · exact .refl s
  · exact .refl s

theorem endEmptyMatch_waits (now : Instant) : s.Waits now (s.endEmptyMatch now) := by
  have hplanned : s.Waits now { s with gameoverWhenEmpty := false } :=
    .still rfl rfl rfl rfl rfl rfl (.inl rfl)
  rw [endEmptyMatch]
  split
  · exact hplanned.trans (request_waits _ now _)
  · exact .refl s

theorem drainOutbound_waits (out : Outflow) : s.Waits t.now (s.drainOutbound t out) := by
  rcases s.drainOutbound_cases t out with ⟨hsame, -⟩ | hparts
  · rw [hsame]
    exact .still rfl rfl rfl rfl rfl rfl (.inl rfl)
  · exact hparts.waits t.now

end Waiting

section Receiving

theorem receiveBanner_carries (line : Bytes) : s.Carries (s.receiveBanner t line) := by
  rcases s.receiveBanner_cases t line with ⟨delimiter, protocol, gameVersion, hspeaks⟩ | ⟨hparts, -⟩
  · have hnoted : s.Carries { s with delimiter, protocol, gameVersion } :=
      ⟨rfl, rfl, fun h => ⟨h.socket, h.ended⟩⟩
    exact hnoted.trans hspeaks.carries
  · exact hparts.waits t.now |>.toCarries

theorem receiveAuthenticated_carries (line : Line) :
    s.Carries (s.receiveAuthenticated t.now line) := by
  obtain ⟨events, hevents⟩ := s.receiveAuthenticated_advances t.now line
  suffices hsame : (s.receiveAuthenticated t.now line).settings = s.settings ∧
      (s.receiveAuthenticated t.now line).lastReceived = s.lastReceived from
    ⟨hsame.1, hsame.2, hevents.aligned⟩
  rw [receiveAuthenticated]
  split
  · exact ⟨rfl, rfl⟩
  · have hasked (base : Session) (commands : List String) :
        base.Waits t.now ((base.request t.now .subscribe).2.sendAll t.now commands) :=
      (base.request_waits t.now .subscribe).trans (sendAll_waits _ t.now commands)
    exact ⟨(hasked _ _).settings, (hasked _ _).lastReceived⟩

theorem receiveError_carries (line : Line) : s.Carries (s.receiveError t line) := by
  rw [receiveError]
  split
  · exact (s.fail_parts t _).waits t.now |>.toCarries
  · exact ⟨rfl, rfl, fun h => ⟨h.socket, h.ended⟩⟩

theorem receiveResponse_carries (line : Line) : s.Carries (s.receiveResponse t.now line) := by
  obtain ⟨events, hevents⟩ := s.receiveResponse_advances t.now line
  suffices hsame : (s.receiveResponse t.now line).settings = s.settings ∧
      (s.receiveResponse t.now line).lastReceived = s.lastReceived from
    ⟨hsame.1, hsame.2, hevents.aligned⟩
  rw [receiveResponse]
  split
  · rw [receivePong]
    split
    · exact ⟨rfl, rfl⟩
    · exact ⟨rfl, rfl⟩
  · exact ⟨rfl, rfl⟩

theorem syncTravelling_carries : s.Carries s.syncTravelling := by
  have hsame : s.syncTravelling.settings = s.settings ∧
      s.syncTravelling.lastReceived = s.lastReceived := by
    rw [syncTravelling]
    split
    · exact ⟨rfl, rfl⟩
    · exact ⟨rfl, rfl⟩
    · exact ⟨rfl, rfl⟩
  exact ⟨hsame.1, hsame.2, s.syncTravelling_advances.aligned⟩

end Receiving

section Connecting

variable (haligned : s.Aligned)

include haligned

theorem startConnect_waits (hstage : s.stage = .disconnected) : s.Waits t.now s.startConnect := by
  have hsocket : s.socket = false := by
    rw [haligned.socket, hstage]
    rfl
  have hnone {p : Prop} (hopen : s.startConnect.socket = true) : p :=
    absurd (hsocket.symm.trans hopen) Bool.false_ne_true
  exact ⟨⟨rfl, rfl, fun _ => ⟨hsocket, fun _ => hsocket⟩⟩, id, hnone, hnone, hnone⟩

theorem pollConnect_listens (hstage : s.stage = .connecting) (hgoes : s.terminated = none)
    (dial : Dial) : s.Listens t.now (s.pollConnect t dial) ∧
      (s.pollConnect t dial).stage.isAccepted = false := by
  have hsocket : s.socket = false := by
    rw [haligned.socket, hstage]
    rfl
  unfold pollConnect
  split
  · exact ⟨⟨rfl, .inl rfl, fun _ => ⟨hsocket, fun _ => hsocket⟩⟩, rfl⟩
  · cases dial with
    | underway => exact ⟨(Carries.refl s).listens, by rw [hstage]; rfl⟩
    | opened =>
        refine ⟨⟨rfl, .inr rfl, fun _ => ⟨rfl, fun hended => ?_⟩⟩, rfl⟩
        change s.terminated.isSome = true at hended
        simp [hgoes] at hended
    | failed reason =>
        have hparts := fail_parts { s with dialing := false } t
          (.network ("connect to " ++ s.settings.address ++ " failed: " ++ reason))
        refine ⟨?_, ?_⟩
        · obtain ⟨hsettings, hlastReceived, haligned'⟩ := (hparts.waits t.now).toCarries
          exact ⟨hsettings, .inl hlastReceived, fun h => haligned' ⟨h.socket, h.ended⟩⟩
        · obtain ⟨reason', hsame⟩ := hparts.same
          exact (congrArg (Stage.isAccepted ·.stage) hsame).trans rfl

end Connecting

inductive KeptAlive : Session → Prop
  | gaveUp (sent : Instant) (f : Fault) (hping : s.pingSentAt = some sent)
      (hlong : s.settings.pingTimeout ≤ t.now.since (s.lastReceived.max sent)) :
      KeptAlive (s.fail t f)
  | patient (sent : Instant) (hping : s.pingSentAt = some sent)
      (hshort : t.now.since (s.lastReceived.max sent) < s.settings.pingTimeout) : KeptAlive s
  | recent (hping : s.pingSentAt = none) (hsent : t.now.since s.lastSend < s.settings.pingRate)
      (hreceived : t.now.since s.lastReceived < s.settings.pingRate) : KeptAlive s
  | asked (hping : s.pingSentAt = none) (hsocket : s.socket = true) : KeptAlive
      { (s.send t.now (ping keepaliveToken)).2 with pingSentAt := some t.now }
  | offline (hsocket : s.socket = false) : KeptAlive s

theorem keptAlive_keepalive : s.KeptAlive t (s.keepalive t) := by
  rw [keepalive]
  split
  · rename_i sent hping
    split
    · rename_i hlong
      exact .gaveUp sent _ hping hlong
    · rename_i hshort
      exact .patient sent hping (Nat.lt_of_not_le hshort)
  · rename_i hping
    dsimp only
    split
    · cases hsocket : s.socket with
      | false =>
          rw [send, request, hsocket]
          exact .offline hsocket
      | true =>
          have hqueued : 0 < (s.send t.now (ping keepaliveToken)).1 := by
            rw [send, request, if_pos hsocket]
            exact Wire.Request.encode_length_pos _
          rw [if_pos hqueued]
          exact .asked hping hsocket
    · rename_i hrecent
      rw [not_or, Nat.not_le, Nat.not_le] at hrecent
      exact .recent hping hrecent.1 hrecent.2

/-- An answer is awaited, or not long ago a request has been sent and bytes have arrived. -/
def Attentive (now : Instant) (s : Session) : Prop :=
  s.pingSentAt.isSome ∨ now.since s.lastSend < s.settings.pingRate ∧
    now.since s.lastReceived < s.settings.pingRate

variable {s t}

theorem Waits.attentive {now : Instant} {after : Session} (h : s.Waits now after)
    (hopen : after.socket = true) (hs : s.Attentive now) : after.Attentive now := by
  rcases hs with hping | ⟨hsent, hreceived⟩
  · left
    rw [h.pingSentAt hopen]
    exact hping
  · right
    rw [h.settings, h.lastReceived]
    refine ⟨?_, hreceived⟩
    rcases h.lastSend hopen with hsame | hnow
    · rw [hsame]
      exact hsent
    · rw [hnow, Instant.since_self]
      exact Nat.zero_lt_of_lt hsent

structure Timed (t : Moment) (s after : Session) : Prop where
  socket : s.socket = true
  accepted : after.stage.isAccepted = s.stage.isAccepted
  pingSentAt : ∀ sent, s.pingSentAt = some sent → after.pingSentAt = some sent
  patient : s.stage.isAccepted = true → ∀ sent, s.pingSentAt = some sent →
    t.now.since (s.lastReceived.max sent) < s.settings.pingTimeout
  attentive : s.stage.isAccepted = true → after.Attentive t.now

variable (s t)

theorem keepalive_carries : s.Carries (s.keepalive t) := by
  have hkept := s.keptAlive_keepalive t
  generalize s.keepalive t = after at hkept
  cases hkept with
  | gaveUp sent f => exact (s.fail_parts t f).waits t.now |>.toCarries
  | patient | recent | offline => exact .refl s
  | asked =>
      obtain ⟨hsettings, hlastReceived, haligned⟩ :=
        (s.request_waits t.now (.execute (ping keepaliveToken))).toCarries
      exact ⟨hsettings, hlastReceived, fun h => ⟨(haligned h).socket, (haligned h).ended⟩⟩

theorem keepalive_timed (hopen : (s.keepalive t).socket = true) : s.Timed t (s.keepalive t) := by
  have hkept := s.keptAlive_keepalive t
  generalize s.keepalive t = after at hkept hopen
  cases hkept with
  | gaveUp sent f =>
      exact absurd ((s.fail_parts t f).closed.symm.trans hopen) Bool.false_ne_true
  | patient sent hping hshort =>
      refine ⟨hopen, rfl, fun _ => id, fun _ sent' hping' => ?_, fun _ => .inl ?_⟩
      · rw [hping] at hping'
        cases hping'
        exact hshort
      · rw [hping]
        rfl
  | recent hping hsent hreceived =>
      exact ⟨hopen, rfl, fun _ => id, fun _ sent hsome => absurd (hping.symm.trans hsome) nofun,
        fun _ => .inr ⟨hsent, hreceived⟩⟩
  | asked hping hsocket =>
      have hwaits := s.request_waits t.now (.execute (ping keepaliveToken))
      have hnone {p : Prop} {sent : Instant} (hsome : s.pingSentAt = some sent) : p :=
        absurd (hping.symm.trans hsome) nofun
      exact ⟨hsocket, hwaits.accepted hopen, fun _ => hnone, fun _ _ => hnone, fun _ => .inl rfl⟩
  | offline hsocket => exact absurd (hsocket.symm.trans hopen) Bool.false_ne_true

theorem keepalive_socket (hrecent : t.now.since s.lastReceived < s.settings.pingTimeout) :
    (s.keepalive t).socket = s.socket := by
  have hkept := s.keptAlive_keepalive t
  generalize s.keepalive t = after at hkept
  cases hkept with
  | gaveUp sent f hping hlong =>
      have hless := t.now.since_max_le s.lastReceived sent
      exact absurd (Nat.le_trans hlong hless) (Nat.not_le.2 hrecent)
  | patient | recent | offline => rfl
  | asked => exact (s.request_speaks t.now (.execute (ping keepaliveToken))).advances.socket

/-- Apart from the keepalive, the timers wait or drop the connection. -/
theorem runTimers_outcome : s.Waits t.now (s.runTimers t) ∧ s.stage = .handshaking ∨
    s.Parts (s.runTimers t) ∨ (s.keepalive t).Waits t.now (s.runTimers t) := by
  rw [runTimers]
  dsimp only
  split
  · rename_i hstage
    left
    split
    · exact ⟨(s.fail_parts t _).waits t.now, hstage⟩
    · exact ⟨.refl s, hstage⟩
  · right
    split
    · exact .inl (s.fail_parts t _)
    · right
      split
      · exact ((refreshRoster_waits _ t.now).trans (endPlannedMatch_waits _ t.now)).trans
          (endEmptyMatch_waits _ t.now)
      · exact .refl _

theorem runTimers_carries : s.Carries (s.runTimers t) := by
  rcases s.runTimers_outcome t with ⟨hwaits, -⟩ | hparts | hkept
  · exact hwaits.toCarries
  · exact hparts.waits t.now |>.toCarries
  · exact (s.keepalive_carries t).trans hkept.toCarries

theorem runTimers_timed (hopen : (s.runTimers t).socket = true) : s.Timed t (s.runTimers t) := by
  rcases s.runTimers_outcome t with ⟨hwaits, hstage⟩ | hparts | hkept
  · have hnone {p : Prop} (haccepted : s.stage.isAccepted = true) : p := by
      rw [hstage] at haccepted
      cases haccepted
    exact ⟨hwaits.socket hopen, hwaits.accepted hopen,
      fun sent hping => (hwaits.pingSentAt hopen).trans hping, hnone, hnone⟩
  · exact absurd (hparts.closed.symm.trans hopen) Bool.false_ne_true
  · have htimed := s.keepalive_timed t (hkept.socket hopen)
    exact ⟨htimed.socket, (hkept.accepted hopen).trans htimed.accepted,
      fun sent hping => (hkept.pingSentAt hopen).trans (htimed.pingSentAt sent hping),
      htimed.patient, fun haccepted => hkept.attentive hopen (htimed.attentive haccepted)⟩

end Session

end RemoteConsole
