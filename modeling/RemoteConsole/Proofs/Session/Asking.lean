import RemoteConsole.Proofs.Session.Timing

namespace RemoteConsole

open Wire (Bytes Line Request)

def Outflow.taken : Outflow → Nat
  | .took bytes => bytes
  | .ended | .failed _ => 0

namespace Session

def signOfLife : Request :=
  .execute (ping keepaliveToken)

/-- These requests have been queued behind what waits to be sent. Without any the time of the last
one is as before, and no answer is due that was not due before. -/
structure Queues (now : Instant) (requests : List Request) (s after : Session) : Prop where
  outbound : after.outbound = s.outbound ++ requests.flatMap Request.encode
  lastSend : after.lastSend = if requests = [] then s.lastSend else now
  pingSentAt : ∀ sent, after.pingSentAt = some sent →
    s.pingSentAt = some sent ∨ sent = now ∧ signOfLife ∈ requests

/-- Nothing but requests has been queued on the connection, unless it is gone. -/
def Asks (now : Instant) (s after : Session) : Prop :=
  after.socket = true → s.socket = true ∧ ∃ requests, Queues now requests s after

section Relations

variable {s between after : Session} {now : Instant}

theorem Queues.trans {requests more : List Request} (h : Queues now requests s between)
    (h' : Queues now more between after) : Queues now (requests ++ more) s after where
  outbound := by rw [h'.outbound, h.outbound, List.flatMap_append, List.append_assoc]
  lastSend := by
    rw [h'.lastSend, h.lastSend]
    cases requests <;> cases more <;> simp
  pingSentAt sent hping := by
    rcases h'.pingSentAt sent hping with hbefore | ⟨hnow, hmem⟩
    · rcases h.pingSentAt sent hbefore with hstart | ⟨hnow, hmem⟩
      · exact .inl hstart
      · exact .inr ⟨hnow, List.mem_append_left _ hmem⟩
    · exact .inr ⟨hnow, List.mem_append_right _ hmem⟩

theorem Queues.none (houtbound : after.outbound = s.outbound)
    (hlastSend : after.lastSend = s.lastSend)
    (hping : ∀ sent, after.pingSentAt = some sent → s.pingSentAt = some sent) :
    Queues now [] s after where
  outbound := by rw [houtbound, List.flatMap_nil, List.append_nil]
  lastSend := hlastSend
  pingSentAt sent h := .inl (hping sent h)

theorem Asks.still (hsocket : after.socket = s.socket) (houtbound : after.outbound = s.outbound)
    (hlastSend : after.lastSend = s.lastSend) (hping : after.pingSentAt = s.pingSentAt) :
    s.Asks now after :=
  fun hopen => ⟨hsocket.symm.trans hopen, [], .none houtbound hlastSend fun _ => hping.symm.trans⟩

theorem Asks.answered (hsocket : after.socket = s.socket) (houtbound : after.outbound = s.outbound)
    (hlastSend : after.lastSend = s.lastSend) (hping : after.pingSentAt = none) :
    s.Asks now after := by
  refine fun hopen => ⟨hsocket.symm.trans hopen, [], .none houtbound hlastSend fun sent hsent => ?_⟩
  rw [hping] at hsent
  cases hsent

theorem Asks.refl (s : Session) : s.Asks now s :=
  .still rfl rfl rfl rfl

theorem Asks.trans (h : s.Asks now between) (h' : between.Asks now after) : s.Asks now after := by
  intro hopen
  obtain ⟨hbetween, more, hmore⟩ := h' hopen
  obtain ⟨hsocket, requests, hrequests⟩ := h hbetween
  exact ⟨hsocket, requests ++ more, hrequests.trans hmore⟩

theorem Parts.asks (h : s.Parts after) : s.Asks now after :=
  fun hopen => absurd (h.closed.symm.trans hopen) Bool.false_ne_true

end Relations

variable (s : Session) (t : Moment)

theorem request_asks (now : Instant) (r : Request) : s.Asks now (s.request now r).2 := by
  rw [request]
  split
  · rename_i hsocket
    refine fun _ => ⟨hsocket, [r], ?_, rfl, fun sent => .inl⟩
    rw [List.flatMap_singleton]
  · exact .refl s

theorem sendAll_asks (now : Instant) (commands : List String) :
    s.Asks now (s.sendAll now commands) :=
  List.foldlRecOn (motive := s.Asks now) commands _ (.refl s)
    fun after hafter _ _ => hafter.trans (after.request_asks now _)

theorem endMatch_asks (now : Instant) (delay : Millis) : s.Asks now (s.endMatch now delay) := by
  have hplanned : s.Asks now { s with gameoverAt := some (now.after delay) } :=
    .still rfl rfl rfl rfl
  rw [endMatch]
  split
  · exact hplanned
  · exact hplanned.trans (request_asks _ now _)

theorem act_asks (a : Action) : s.Asks t.now (s.act t a).2 := by
  cases a with
  | send | say | announce | tell | kick => exact s.request_asks t.now _
  | endMatch delay => exact s.endMatch_asks t.now delay
  | endMatchWhenEmpty | keepMatch | remember => exact .still rfl rfl rfl rfl
  | askWait | askModel => exact .refl s
  | disconnect reason => exact (s.disconnect_parts t reason).asks
  | terminate reason => exact (s.terminate_parts reason).asks

section Timers

theorem keepalive_asks : s.Asks t.now (s.keepalive t) := by
  have hkept := s.keptAlive_keepalive t
  generalize s.keepalive t = after at hkept
  cases hkept with
  | gaveUp sent f => exact (s.fail_parts t f).asks
  | patient | recent | offline => exact .refl s
  | asked hping hsocket =>
      rw [send, request, if_pos hsocket]
      refine fun _ => ⟨hsocket, [signOfLife], ?_, rfl, fun sent hsent => .inr ⟨?_, ?_⟩⟩
      · rw [List.flatMap_singleton]
        rfl
      · exact (Option.some.inj hsent).symm
      · exact List.mem_singleton_self _

theorem refreshRoster_asks (now : Instant) : s.Asks now (s.refreshRoster now) := by
  have hnoted : s.Asks now { s with lastRoster := now } := .still rfl rfl rfl rfl
  rw [refreshRoster]
  split
  · exact hnoted.trans (sendAll_asks _ now _)
  · exact .refl s

theorem endPlannedMatch_asks (now : Instant) : s.Asks now (s.endPlannedMatch now) := by
  have hended : s.Asks now { s with gameoverAt := none } := .still rfl rfl rfl rfl
  rw [endPlannedMatch]
  split
  · split
    · exact hended.trans (request_asks _ now _)
    · exact .refl s
  · exact .refl s

theorem endEmptyMatch_asks (now : Instant) : s.Asks now (s.endEmptyMatch now) := by
  have hended : s.Asks now { s with gameoverWhenEmpty := false } := .still rfl rfl rfl rfl
  rw [endEmptyMatch]
  split
  · exact hended.trans (request_asks _ now _)
  · exact .refl s

theorem runTimers_asks : s.Asks t.now (s.runTimers t) := by
  rw [runTimers]
  dsimp only
  split
  · split
    · exact (s.fail_parts t _).asks
    · exact .refl s
  · split
    · exact (s.fail_parts t _).asks
    · have hkept := s.keepalive_asks t
      split
      · exact ((hkept.trans (refreshRoster_asks _ t.now)).trans
          (endPlannedMatch_asks _ t.now)).trans (endEmptyMatch_asks _ t.now)
      · exact hkept

theorem drainOutbound_of_open {out : Outflow} (hopen : (s.drainOutbound t out).socket = true) :
    s.drainOutbound t out = { s with outbound := s.outbound.drop out.taken } := by
  have hsocket : s.socket = true := (s.drainOutbound_waits t out).socket hopen
  cases hempty : s.outbound.isEmpty with
  | true =>
      have hnothing : s.outbound = [] := List.isEmpty_iff.1 hempty
      unfold drainOutbound
      rw [if_pos hempty, hnothing, List.drop_nil, ← hnothing]
  | false =>
      unfold drainOutbound at hopen ⊢
      simp only [hempty, hsocket, Bool.not_true, Bool.false_eq_true, if_false] at hopen ⊢
      cases out with
      | took bytes => rfl
      | ended | failed =>
          exact absurd ((s.fail_parts t _).closed.symm.trans hopen) Bool.false_ne_true

end Timers

theorem pollConnect_of_opening {dial : Dial} (hsocket : s.socket = false)
    (hopen : (s.pollConnect t dial).socket = true) : s.pollConnect t dial = s.opened t.now := by
  have hnone {p : Prop} (hstill : s.socket = true) : p :=
    absurd (hsocket.symm.trans hstill) Bool.false_ne_true
  unfold pollConnect at hopen ⊢
  split
  · rename_i hidle
    rw [if_pos hidle] at hopen
    exact hnone hopen
  · rename_i hdialing
    rw [if_neg hdialing] at hopen
    cases dial with
    | underway => exact hnone hopen
    | opened => rfl
    | failed reason => exact absurd ((fail_parts _ t _).closed.symm.trans hopen) Bool.false_ne_true

section Receiving

theorem receiveBanner_asks (line : Bytes) : s.Asks t.now (s.receiveBanner t line) := by
  unfold receiveBanner
  split
  · exact (s.fail_parts t _).asks
  · split
    · exact (s.fail_parts t _).asks
    · rename_i banner _ _ delimiter _
      have hnoted : s.Asks t.now { s with
          delimiter := some delimiter, protocol := banner.protocol, gameVersion := banner.game } :=
        .still rfl rfl rfl rfl
      exact hnoted.trans (request_asks _ t.now _)

theorem receiveAuthenticated_asks (line : Line) :
    s.Asks t.now (s.receiveAuthenticated t.now line) := by
  rw [receiveAuthenticated]
  split
  · exact .refl s
  · have haccepted : s.Asks t.now { s with
        user := line.field 0, attempts := 0, stage := .subscribing, subscribedAt := some t.now } :=
      .still rfl rfl rfl rfl
    have hasked := (haccepted.trans (request_asks _ t.now .subscribe)).trans
      (sendAll_asks _ t.now [rosterCommand, "binfo", "gameinfo", "rotation", ping initToken])
    exact hasked.trans (.still rfl rfl rfl rfl)

theorem receiveError_asks (line : Line) : s.Asks t.now (s.receiveError t line) := by
  rw [receiveError]
  split
  · exact (s.fail_parts t _).asks
  · exact .still rfl rfl rfl rfl

theorem receiveResponse_asks (line : Line) : s.Asks t.now (s.receiveResponse t.now line) := by
  rw [receiveResponse]
  split
  · rw [receivePong]
    split
    · exact .answered rfl rfl rfl rfl
    · exact .answered rfl rfl rfl rfl
  · exact .still rfl rfl rfl rfl

theorem syncTravelling_asks (now : Instant) : s.Asks now s.syncTravelling := by
  rw [syncTravelling]
  split
  · exact .still rfl rfl rfl rfl
  · exact .still rfl rfl rfl rfl
  · exact .refl s

end Receiving

end Session

end RemoteConsole
