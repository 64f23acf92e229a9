import Mathlib.Data.List.Induction
import RemoteConsole.Proofs.Host.Listening
import RemoteConsole.Proofs.Session.Asking

namespace RemoteConsole

open Session (Queues signOfLife)
open Wire (Bytes Line Request)

namespace Scene

section Reading

variable (t : Moment) (sc : Scene)

theorem asks_screen (id : PlayerId) : sc.session.Asks t.now (sc.screen t id).2.session := by
  unfold screen
  split
  · exact .refl _
  · exact .still rfl rfl rfl rfl

theorem asks_attend (e : Event) : sc.session.Asks t.now (sc.attend t e).2.2.session := by
  cases e with
  | playerJoin p | playerDiscovered p => exact sc.asks_screen t p.id
  | matchEnd outcome =>
      simp only [attend, finishMatch]
      split
      · exact .still rfl rfl rfl rfl
      · exact .still rfl rfl rfl rfl
  | mapStart map => exact sc.session.sendAll_asks t.now _
  | _ => exact .refl _

theorem asks_emit (e : Event) : sc.session.Asks t.now (sc.session.emit e) :=
  .still rfl rfl rfl rfl

theorem asks_handle (e : Event) : sc.session.Asks t.now (sc.handle t e).session := by
  have hattend := sc.asks_attend t e
  unfold handle
  generalize sc.attend t e = attended at hattend
  obtain ⟨kinds, told, after⟩ := attended
  have htold : sc.session.Asks t.now (after.session.emit told) :=
    hattend.trans (after.asks_emit t _)
  dsimp only
  split
  · exact htold
  · split
    · exact htold
    · split
      · exact (htold.trans (Session.request_asks _ t.now _)).trans
          (.still rfl rfl rfl rfl)
      · exact htold.trans (.still rfl rfl rfl rfl)

theorem asks_handleAll (r : Match.Model × List Event) :
    sc.session.Asks t.now (sc.handleAll t r).session :=
  List.foldlRecOn (motive := fun after : Scene => sc.session.Asks t.now after.session) r.2
    (handle t) (.still rfl rfl rfl rfl)
    fun after hafter e _ => hafter.trans (after.asks_handle t e)

theorem asks_finishResponse : sc.session.Asks t.now (sc.finishResponse t).session := by
  rw [finishResponse]
  split
  · exact .refl _
  · have htaken : sc.session.Asks t.now (sc.onSession ({ · with response := none })).session :=
      .still rfl rfl rfl rfl
    exact htaken.trans (asks_handleAll t _ _)

theorem asks_receive (line : Line) : sc.session.Asks t.now (sc.receive t line).2.session := by
  rw [receive]
  cases line.kind with
  | version | other => exact .refl _
  | authenticated => exact sc.session.receiveAuthenticated_asks t line
  | error => exact sc.session.receiveError_asks t line
  | echo => exact .still rfl rfl rfl rfl
  | response => exact sc.session.receiveResponse_asks t line
  | log =>
      dsimp only
      split
      · exact sc.asks_handleAll t _
      · exact .refl _

theorem asks_absorb (line : Line) : sc.session.Asks t.now (sc.absorb t line).2.session := by
  have hanswer : sc.session.Asks t.now
      (if line.kind = .response then sc else sc.finishResponse t).session := by
    split
    · exact .refl _
    · exact sc.asks_finishResponse t
  rw [absorb]
  exact (hanswer.trans (asks_receive t _ line)).trans (Session.syncTravelling_asks _ t.now)

theorem asks_flush : sc.session.Asks t.now (sc.flush t).session :=
  flush_keeps (any_answer_keeps fun s a hs => hs.trans (s.act_asks t a)) sc.host.answers_any
    (fun _ _ _ _ hs => hs.trans (.still rfl rfl rfl rfl)) (.refl _)

theorem asks_processLine (line : Bytes) :
    sc.session.Asks t.now (sc.processLine t line).session := by
  have hact := any_answer_keeps (t := t) (P := sc.session.Asks t.now)
    fun s a hs => hs.trans (s.act_asks t a)
  refine processLine_keeps_of_reads hact (fun read hreacts => ?_)
    (fun _ _ _ _ hs => hs.trans (.still rfl rfl rfl rfl)) sc.host.answers_any (.refl _) line
  rcases hreacts with ⟨line, rfl⟩ | ⟨line, rfl⟩
  · exact sc.session.receiveBanner_asks t line
  · exact sc.asks_absorb t line

theorem asks_processLines (fuel : Nat) :
    sc.session.Asks t.now (sc.processLines t fuel).session := by
  induction fuel generalizing sc with
  | zero => exact .refl _
  | succ fuel ih =>
      have hframed (framer : Wire.Framer) :
          sc.session.Asks t.now (sc.onSession ({ · with framer })).session :=
        .still rfl rfl rfl rfl
      rw [processLines]
      split
      · exact .refl _
      · split
        · exact hframed _
        · exact ((hframed _).trans (asks_processLine t _ _)).trans (ih _)

theorem asks_processData (data : Bytes) :
    sc.session.Asks t.now (sc.processData t data).session := by
  generalize hheard : (sc.onSession fun s =>
    { s with framer := s.framer.push data, lastReceived := t.now }) = heard
  have harrived : sc.session.Asks t.now heard.session := by
    rw [← hheard]
    exact .still rfl rfl rfl rfl
  rw [processData, hheard]
  exact (harrived.trans (asks_processLines t _ _)).trans (asks_flush t _)

theorem asks_arrive (a : Arrival) : sc.session.Asks t.now (sc.arrive t a).session := by
  cases hsocket : sc.session.socket with
  | false =>
      rw [sc.arrive_of_closed t hsocket]
      exact .refl _
  | true =>
      cases a with
      | bytes data =>
          rw [sc.arrive_bytes t hsocket]
          exact sc.asks_processData t data
      | ended | failed => exact (sc.parts_arrive t hsocket (by simp)).asks

theorem asks_arriveAll (arrivals : List Arrival) :
    sc.session.Asks t.now (sc.arriveAll t arrivals).session :=
  List.foldlRecOn (motive := fun after : Scene => sc.session.Asks t.now after.session) _
    (arrive t) (.refl _) fun after hafter a _ => hafter.trans (after.asks_arrive t a)

theorem asks_banPlayer (id : PlayerId) (banner reason : String) (duration : UInt64) :
    sc.session.Asks t.now (sc.banPlayer t id banner reason duration).2.session := by
  unfold banPlayer
  cases sc.session.model.player? id with
  | none => exact sc.session.request_asks t.now _
  | some p =>
      have hedited (model : Match.Model) : sc.session.Asks t.now { sc.session with model } :=
        .still rfl rfl rfl rfl
      exact (hedited _).trans (Session.request_asks _ t.now _)

end Reading

def Call.taken : Call → Nat
  | turn _ _ out => out.taken
  | hear _ | act _ | ban .. | names _ | elsewhere .. => 0

/-- What a call has queued over a connection that it leaves open: first `asked`, and then, when the
network has taken what it takes, `told`. The last request of all is the one that the session
remembers the time of, and if an answer has become due, a sign of life has been asked for. Where
there was no connection before, the time is that of its opening, and nothing is due. -/
structure Call.Queues (call : Call) (t : Moment) (asked told : List Request) (s after : Session) :
    Prop where
  outbound : after.outbound = (s.outbound ++ asked.flatMap Request.encode).drop call.taken ++
    told.flatMap Request.encode
  lastSend : after.lastSend =
    if s.socket = true ∧ asked ++ told = [] then s.lastSend else t.now
  pingSentAt : ∀ sent, after.pingSentAt = some sent →
    s.socket = true ∧ s.pingSentAt = some sent ∨ sent = t.now ∧ signOfLife ∈ asked

theorem Call.queues_of_asks {call : Call} {t : Moment} {s after : Session}
    (hnone : call.taken = 0) (h : s.Asks t.now after) (hopen : after.socket = true) :
    ∃ asked told, call.Queues t asked told s after := by
  obtain ⟨hsocket, requests, hqueues⟩ := h hopen
  refine ⟨requests, [], ?_, ?_, fun sent hping => ?_⟩
  · rw [hnone, List.drop_zero, List.flatMap_nil, List.append_nil, hqueues.outbound]
  · rw [hqueues.lastSend]
    simp [hsocket]
  · exact (hqueues.pingSentAt sent hping).imp_left fun hbefore => ⟨hsocket, hbefore⟩

section Turning

variable {t : Moment} {sc : Scene} {dial : Dial} {arrivals : List Arrival} {out : Outflow}

theorem conclude_queues (hopen : (sc.conclude t out).session.socket = true) :
    sc.session.socket = true ∧ ∃ told : List Request,
      (sc.conclude t out).session.outbound =
        sc.session.outbound.drop out.taken ++ told.flatMap Request.encode ∧
      (sc.conclude t out).session.lastSend =
        (if told = [] then sc.session.lastSend else t.now) ∧
      (sc.conclude t out).session.pingSentAt = sc.session.pingSentAt := by
  have hwaits := waits_conclude t sc out
  obtain ⟨hdrained, told, hqueues⟩ := asks_flush t (sc.onSession (·.drainOutbound t out)) hopen
  have hsame : (sc.onSession (·.drainOutbound t out)).session =
      { sc.session with outbound := sc.session.outbound.drop out.taken } :=
    sc.session.drainOutbound_of_open t hdrained
  rw [hsame] at hqueues
  exact ⟨hwaits.socket hopen, told, hqueues.outbound, hqueues.lastSend, hwaits.pingSentAt hopen⟩

variable (haligned : sc.session.Aligned)

include haligned

theorem advance_of_opening (hsocket : sc.session.socket = false)
    (hopen : (sc.advance t dial arrivals).session.socket = true) :
    sc.advance t dial arrivals = sc.onSession (·.opened t.now) := by
  have hnone : sc.session.stage.isOpen = false := haligned.socket.symm.trans hsocket
  have hstill {p : Prop} (hstill : sc.session.socket = true) : p :=
    absurd (hsocket.symm.trans hstill) Bool.false_ne_true
  rw [advance] at hopen ⊢
  cases hstage : sc.session.stage with
  | disconnected =>
      simp only [hstage] at hopen
      split at hopen
      · exact hstill hopen
      · exact hstill hopen
  | connecting =>
      simp only [hstage] at hopen
      simp only [onSession, sc.session.pollConnect_of_opening t hsocket hopen]
  | handshaking | subscribing | fullyConnected | travelling =>
      rw [hstage] at hnone
      cases hnone

theorem turn_of_opening (hsocket : sc.session.socket = false)
    (hopen : (sc.turn t dial arrivals out).session.socket = true) :
    sc.turn t dial arrivals out = (sc.onSession (·.opened t.now)).conclude t out := by
  rw [turn] at hopen ⊢
  split
  · rename_i hended
    rw [if_pos hended] at hopen
    exact absurd (hsocket.symm.trans hopen) Bool.false_ne_true
  · rename_i hgoes
    rw [if_neg hgoes] at hopen
    rw [advance_of_opening haligned hsocket ((waits_conclude t _ out).socket hopen)]

theorem queues_turn (hopen : (sc.turn t dial arrivals out).session.socket = true) :
    ∃ asked told, (Call.turn dial arrivals out).Queues t asked told sc.session
      (sc.turn t dial arrivals out).session := by
  cases hsocket : sc.session.socket with
  | false =>
      have hturn := turn_of_opening haligned hsocket hopen
      rw [hturn] at hopen ⊢
      obtain ⟨-, told, houtbound, hlastSend, hping⟩ := conclude_queues hopen
      refine ⟨[], told, ?_, ?_, fun sent hsent => ?_⟩
      · rw [houtbound, List.flatMap_nil, List.append_nil]
        rfl
      · have hnone : ¬ (sc.session.socket = true ∧ [] ++ told = []) := by simp [hsocket]
        rw [if_neg hnone, hlastSend]
        exact ite_self _
      · rw [hping] at hsent
        cases hsent
  | true =>
      rw [sc.turn_of_open t haligned hsocket] at hopen ⊢
      have harrived := sc.asks_arriveAll t arrivals
      generalize sc.arriveAll t arrivals = arrived at hopen harrived ⊢
      have hdone : sc.session.Asks t.now
          (if arrived.session.socket then arrived.onSession (·.runTimers t) else arrived).session := by
        split
        · exact harrived.trans (arrived.session.runTimers_asks t)
        · exact harrived
      generalize (if arrived.session.socket then arrived.onSession (·.runTimers t) else arrived) =
        done at hopen hdone ⊢
      obtain ⟨hstill, told, houtbound, hlastSend, hping⟩ := conclude_queues hopen
      obtain ⟨-, asked, hqueues⟩ := hdone hstill
      refine ⟨asked, told, ?_, ?_, fun sent hsent => ?_⟩
      · rw [houtbound, hqueues.outbound]
        rfl
      · rw [hlastSend, hqueues.lastSend]
        cases asked <;> cases told <;> simp [hsocket]
      · rw [hping] at hsent
        exact (hqueues.pingSentAt sent hsent).imp_left fun hbefore => ⟨hsocket, hbefore⟩

theorem queues_run {call : Call} (hopen : (call.run t sc).session.socket = true) :
    ∃ asked told, call.Queues t asked told sc.session (call.run t sc).session := by
  cases call with
  | turn dial arrivals out => exact queues_turn haligned hopen
  | hear data => exact Call.queues_of_asks rfl (sc.asks_processData t data) hopen
  | act a => exact Call.queues_of_asks rfl (sc.session.act_asks t a) hopen
  | ban id banner reason duration =>
      exact Call.queues_of_asks rfl (sc.asks_banPlayer t id banner reason duration) hopen
  | names | elsewhere =>
      exact Call.queues_of_asks rfl (.still rfl rfl rfl rfl) hopen

end Turning

/-- One of the calls has queued the request for a sign of life, and that was the time. -/
def AskedAt (sc : Scene) (calls : List (Moment × Call)) (sent : Instant) : Prop :=
  ∃ before t call behind asked told, calls = before ++ (t, call) :: behind ∧ t.now = sent ∧
    call.Queues t asked told (sc.after before).session (call.run t (sc.after before)).session ∧
    signOfLife ∈ asked

theorem aligned_after {sc : Scene} (haligned : sc.session.Aligned)
    (calls : List (Moment × Call)) : (sc.after calls).session.Aligned := by
  induction calls generalizing sc with
  | nil => exact haligned
  | cons call calls ih => exact ih ((listens_run haligned call.1 call.2).aligned haligned)

theorem after_append (sc : Scene) (calls more : List (Moment × Call)) :
    sc.after (calls ++ more) = (sc.after calls).after more :=
  List.foldl_append

theorem AskedAt.append {sc : Scene} {calls : List (Moment × Call)} {sent : Instant}
    (h : sc.AskedAt calls sent) (more : List (Moment × Call)) :
    sc.AskedAt (calls ++ more) sent := by
  obtain ⟨before, t, call, behind, asked, told, rfl, hsent, hqueues, hmem⟩ := h
  exact ⟨before, t, call, behind ++ more, asked, told, by simp, hsent, hqueues, hmem⟩

/-- An answer that is due has been asked for since the connection was opened. -/
theorem askedAt_of_due {sc : Scene} (haligned : sc.session.Aligned)
    (hnone : sc.session.pingSentAt = none) {calls : List (Moment × Call)} {sent : Instant}
    (hopen : (sc.after calls).session.socket = true)
    (hdue : (sc.after calls).session.pingSentAt = some sent) : sc.AskedAt calls sent := by
  induction calls using List.reverseRecOn with
  | nil => exact absurd (hnone.symm.trans hdue) nofun
  | append_singleton calls call ih =>
      obtain ⟨t, call⟩ := call
      rw [after_append] at hopen hdue
      obtain ⟨asked, told, hqueues⟩ := queues_run (aligned_after haligned calls) hopen
      rcases hqueues.pingSentAt sent hdue with ⟨hsocket, hbefore⟩ | ⟨hnow, hmem⟩
      · exact (ih hsocket hbefore).append _
      · exact ⟨calls, t, call, [], asked, told, rfl, hnow.symm, hqueues, hmem⟩

end Scene

end RemoteConsole
