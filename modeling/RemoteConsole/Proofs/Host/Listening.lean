import RemoteConsole.Proofs.Host.Calls
import RemoteConsole.Proofs.Host.Lines
import RemoteConsole.Proofs.Session.Timing

namespace RemoteConsole

open Session (Aligned)
open Wire (Line Bytes)

namespace Scene

def arriveAll (t : Moment) (arrivals : List Arrival) (sc : Scene) : Scene :=
  (arrivals.take readsPerTurn).foldl (arrive t) sc

section Reading

variable (t : Moment) (sc : Scene)

theorem waits_flush : sc.session.Waits t.now (sc.flush t).session :=
  flush_keeps (any_answer_keeps fun s a hs => hs.trans (s.act_waits t a)) sc.host.answers_any
    (fun _ _ _ _ hs => hs.trans (.still rfl rfl rfl rfl rfl rfl (.inl rfl))) (.refl _)

theorem waits_conclude (out : Outflow) : sc.session.Waits t.now (sc.conclude t out).session :=
  (sc.session.drainOutbound_waits t out).trans
    (waits_flush t (sc.onSession (·.drainOutbound t out)))

theorem carries_finishResponse : sc.session.Carries (sc.finishResponse t).session := by
  rw [finishResponse]
  split
  · exact .refl _
  · have htaken : sc.session.Carries (sc.onSession ({ · with response := none })).session :=
      ⟨rfl, rfl, fun h => ⟨h.socket, h.ended⟩⟩
    exact htaken.trans (tends_handleAll t _ _).carries

theorem carries_receive (line : Line) : sc.session.Carries (sc.receive t line).2.session := by
  rw [receive]
  cases line.kind with
  | version | other => exact .refl _
  | authenticated => exact sc.session.receiveAuthenticated_carries t line
  | error => exact sc.session.receiveError_carries t line
  | echo => exact ⟨rfl, rfl, fun h => ⟨h.socket, h.ended⟩⟩
  | response => exact sc.session.receiveResponse_carries t line
  | log =>
      dsimp only
      split
      · exact (sc.tends_handleAll t _).carries
      · exact .refl _

theorem carries_absorb (line : Line) : sc.session.Carries (sc.absorb t line).2.session := by
  have hanswer : sc.session.Carries
      (if line.kind = .response then sc else sc.finishResponse t).session := by
    split
    · exact .refl _
    · exact sc.carries_finishResponse t
  rw [absorb]
  exact (hanswer.trans (carries_receive t _ line)).trans (Session.syncTravelling_carries _)

theorem carries_processLine (line : Bytes) :
    sc.session.Carries (sc.processLine t line).session := by
  have hact := any_answer_keeps (t := t) (P := sc.session.Carries)
    fun s a hs => hs.trans (s.act_waits t a).toCarries
  refine processLine_keeps_of_reads hact (fun read hreacts => ?_)
    (fun _ _ _ _ hs => hs.trans ⟨rfl, rfl, fun h => ⟨h.socket, h.ended⟩⟩)
    sc.host.answers_any (.refl _) line
  rcases hreacts with ⟨line, rfl⟩ | ⟨line, rfl⟩
  · exact sc.session.receiveBanner_carries t line
  · exact sc.carries_absorb t line

theorem carries_processLines (fuel : Nat) :
    sc.session.Carries (sc.processLines t fuel).session := by
  induction fuel generalizing sc with
  | zero => exact .refl _
  | succ fuel ih =>
      have hframed (framer : Wire.Framer) :
          sc.session.Carries (sc.onSession ({ · with framer })).session :=
        ⟨rfl, rfl, fun h => ⟨h.socket, h.ended⟩⟩
      rw [processLines]
      split
      · exact .refl _
      · split
        · exact hframed _
        · exact ((hframed _).trans (carries_processLine t _ _)).trans (ih _)

theorem listens_processData (data : Bytes) :
    sc.session.Listens t.now (sc.processData t data).session ∧
      (sc.processData t data).session.lastReceived = t.now := by
  generalize hheard : (sc.onSession fun s =>
    { s with framer := s.framer.push data, lastReceived := t.now }) = heard
  have hlistens : sc.session.Listens t.now heard.session := by
    rw [← hheard]
    exact ⟨rfl, .inr rfl, fun h => ⟨h.socket, h.ended⟩⟩
  have hcarries : heard.session.Carries (sc.processData t data).session := by
    rw [processData, hheard]
    exact (carries_processLines t _ _).trans (waits_flush t _).toCarries
  have hnow : heard.session.lastReceived = t.now := by
    rw [← hheard]
    rfl
  exact ⟨hlistens.trans hcarries.listens, hcarries.lastReceived.trans hnow⟩

theorem arrive_of_closed (hsocket : sc.session.socket = false) (a : Arrival) :
    sc.arrive t a = sc := by
  unfold arrive
  rw [hsocket]
  rfl

theorem foldl_arrive_of_closed (hsocket : sc.session.socket = false) (arrivals : List Arrival) :
    arrivals.foldl (arrive t) sc = sc := by
  induction arrivals with
  | nil => rfl
  | cons a arrivals ih => rw [List.foldl_cons, sc.arrive_of_closed t hsocket, ih]

section Open

variable (hsocket : sc.session.socket = true)

include hsocket

theorem arrive_bytes (data : Bytes) : sc.arrive t (.bytes data) = sc.processData t data := by
  unfold arrive
  rw [hsocket]
  rfl

theorem parts_arrive {a : Arrival} (ha : ∀ data, a ≠ .bytes data) :
    sc.session.Parts (sc.arrive t a).session := by
  unfold arrive
  rw [if_neg (by simp [hsocket])]
  cases a with
  | bytes data => exact absurd rfl (ha data)
  | ended => exact sc.session.fail_parts t (.network "connection closed by server")
  | failed reason => exact sc.session.fail_parts t (.io reason)

end Open

theorem listens_arrive (a : Arrival) : sc.session.Listens t.now (sc.arrive t a).session := by
  cases hsocket : sc.session.socket with
  | false =>
      rw [sc.arrive_of_closed t hsocket]
      exact (Session.Carries.refl _).listens
  | true =>
      cases a with
      | bytes data =>
          rw [sc.arrive_bytes t hsocket]
          exact (sc.listens_processData t data).1
      | ended | failed =>
          exact ((sc.parts_arrive t hsocket (by simp)).waits t.now).toCarries.listens

theorem listens_foldl_arrive (arrivals : List Arrival) :
    sc.session.Listens t.now (arrivals.foldl (arrive t) sc).session :=
  List.foldlRecOn (motive := fun after : Scene => sc.session.Listens t.now after.session) arrivals
    (arrive t) (Session.Carries.refl _).listens fun after hafter a _ =>
      hafter.trans (after.listens_arrive t a)

end Reading

def Call.reads (sc : Scene) : Call → Bool
  | turn _ (.bytes _ :: _) _ => sc.session.socket
  | hear _ => true
  | _ => false

section Arriving

variable (t : Moment) (sc : Scene) {arrivals : List Arrival} {dial : Dial} {out : Outflow}

theorem arriveAll_cons (a : Arrival) :
    sc.arriveAll t (a :: arrivals) =
      (arrivals.take (readsPerTurn - 1)).foldl (arrive t) (sc.arrive t a) :=
  rfl

theorem lastReceived_arriveAll (hreads : (Call.turn dial arrivals out).reads sc = true) :
    (sc.arriveAll t arrivals).session.lastReceived = t.now := by
  cases arrivals with
  | nil => cases hreads
  | cons a arrivals =>
      cases a with
      | bytes data =>
          have hsocket : sc.session.socket = true := hreads
          have hfirst := (sc.listens_processData t data).2
          rw [arriveAll_cons, sc.arrive_bytes t hsocket]
          rcases (listens_foldl_arrive t (sc.processData t data) _).lastReceived with hsame | hnow
          · rw [hsame, hfirst]
          · exact hnow
      | ended | failed => cases hreads

theorem waits_arriveAll (hsilent : (Call.turn dial arrivals out).reads sc = false) :
    sc.session.Waits t.now (sc.arriveAll t arrivals).session := by
  cases arrivals with
  | nil => exact .refl _
  | cons a arrivals =>
      cases hsocket : sc.session.socket with
      | false =>
          rw [arriveAll, foldl_arrive_of_closed t sc hsocket]
          exact .refl _
      | true =>
          rw [arriveAll_cons]
          cases a with
          | bytes data => exact absurd (hsocket.symm.trans hsilent) nofun
          | ended | failed =>
              rw [foldl_arrive_of_closed t _ (sc.parts_arrive t hsocket (by simp)).closed]
              exact (sc.parts_arrive t hsocket (by simp)).waits t.now

theorem listens_arriveAll (arrivals : List Arrival) :
    sc.session.Listens t.now (sc.arriveAll t arrivals).session :=
  sc.listens_foldl_arrive t _

theorem turn_of_open (haligned : sc.session.Aligned) (hsocket : sc.session.socket = true) :
    sc.turn t dial arrivals out =
      (if (sc.arriveAll t arrivals).session.socket
        then (sc.arriveAll t arrivals).onSession (·.runTimers t)
        else sc.arriveAll t arrivals).conclude t out := by
  have hgoes : ¬ sc.session.terminated.isSome = true :=
    fun hended => absurd (hsocket.symm.trans (haligned.ended hended)) nofun
  have hopen : sc.session.stage.isOpen = true := haligned.socket.symm.trans hsocket
  rw [turn, if_neg hgoes, advance]
  cases hstage : sc.session.stage with
  | disconnected | connecting =>
      rw [hstage] at hopen
      cases hopen
  | _ => rfl

end Arriving

section Turning

variable {t : Moment} {sc : Scene} (haligned : sc.session.Aligned) (dial : Dial)
  (arrivals : List Arrival) (out : Outflow)

include haligned

theorem turn_of_closed (hsocket : sc.session.socket = false) : ∃ between : Session,
    sc.session.Listens t.now between ∧ between.stage.isAccepted = false ∧
      between.Waits t.now (sc.turn t dial arrivals out).session := by
  have hnone : sc.session.stage.isOpen = false := haligned.socket.symm.trans hsocket
  have haccepted : sc.session.stage.isAccepted = false :=
    Bool.eq_false_iff.2 fun h =>
      absurd (hnone.symm.trans (Session.Stage.isOpen_of_isAccepted h)) nofun
  have hsame : sc.session.Listens t.now sc.session := (Session.Carries.refl _).listens
  cases hended : sc.session.terminated with
  | some reason =>
      rw [turn, hended]
      exact ⟨sc.session, hsame, haccepted, .refl _⟩
  | none =>
      rw [turn, hended]
      refine ⟨(sc.advance t dial arrivals).session, ?_⟩
      rw [← and_assoc]
      refine ⟨?_, waits_conclude t (sc.advance t dial arrivals) out⟩
      rw [advance]
      cases hstage : sc.session.stage with
      | disconnected =>
          dsimp only
          split
          · exact ⟨(sc.session.startConnect_waits t haligned hstage).toCarries.listens, rfl⟩
          · exact ⟨hsame, haccepted⟩
      | connecting => exact sc.session.pollConnect_listens t haligned hstage hended dial
      | handshaking | subscribing | fullyConnected | travelling =>
          rw [hstage] at hnone
          cases hnone

theorem listens_turn : sc.session.Listens t.now (sc.turn t dial arrivals out).session := by
  cases hsocket : sc.session.socket with
  | false =>
      obtain ⟨between, hlistens, -, hwaits⟩ :=
        turn_of_closed haligned dial arrivals out hsocket
      exact hlistens.trans hwaits.toCarries.listens
  | true =>
      have harrived := sc.listens_arriveAll t arrivals
      rw [sc.turn_of_open t haligned hsocket]
      refine Session.Listens.trans ?_ (waits_conclude t _ out).toCarries.listens
      split
      · exact harrived.trans (Session.runTimers_carries _ t).listens
      · exact harrived

theorem lastReceived_turn (hreads : (Call.turn dial arrivals out).reads sc = true) :
    (sc.turn t dial arrivals out).session.lastReceived = t.now := by
  have hsocket : sc.session.socket = true := by
    cases arrivals with
    | nil => cases hreads
    | cons a arrivals =>
        cases a with
        | bytes data => exact hreads
        | ended | failed => cases hreads
  have harrived := sc.lastReceived_arriveAll t hreads
  rw [sc.turn_of_open t haligned hsocket, (waits_conclude t _ out).lastReceived]
  split
  · exact (Session.runTimers_carries _ t).lastReceived.trans harrived
  · exact harrived

theorem timed_turn (hsocket : sc.session.socket = true)
    (hopen : (sc.turn t dial arrivals out).session.socket = true) : ∃ after,
      (sc.arriveAll t arrivals).session.Carries after ∧
      (sc.arriveAll t arrivals).session.Timed t after ∧
      after.Waits t.now (sc.turn t dial arrivals out).session := by
  rw [sc.turn_of_open t haligned hsocket] at hopen ⊢
  generalize sc.arriveAll t arrivals = arrived at hopen ⊢
  cases hstill : arrived.session.socket with
  | true =>
      simp only [hstill, if_true] at hopen ⊢
      have hwaits := waits_conclude t (arrived.onSession (·.runTimers t)) out
      exact ⟨arrived.session.runTimers t, arrived.session.runTimers_carries t,
        arrived.session.runTimers_timed t (hwaits.socket hopen), hwaits⟩
  | false =>
      simp only [hstill] at hopen
      exact absurd (hstill.symm.trans ((waits_conclude t arrived out).socket hopen)) nofun

theorem not_accepted_turn (hsocket : sc.session.socket = false)
    (hopen : (sc.turn t dial arrivals out).session.socket = true) :
    (sc.turn t dial arrivals out).session.stage.isAccepted = false := by
  obtain ⟨between, -, hnot, hwaits⟩ := turn_of_closed haligned dial arrivals out hsocket
  exact (hwaits.accepted hopen).trans hnot

theorem attentive_turn (hopen : (sc.turn t dial arrivals out).session.socket = true)
    (haccepted : (sc.turn t dial arrivals out).session.stage.isAccepted = true) :
    (sc.turn t dial arrivals out).session.Attentive t.now := by
  cases hsocket : sc.session.socket with
  | false =>
      have hnot := not_accepted_turn haligned dial arrivals out hsocket hopen
      exact absurd (haccepted.symm.trans hnot) nofun
  | true =>
      obtain ⟨after, -, htimed, hwaits⟩ := timed_turn haligned dial arrivals out hsocket hopen
      refine hwaits.attentive hopen (htimed.attentive ?_)
      rw [← htimed.accepted, ← hwaits.accepted hopen, haccepted]

end Turning

theorem waits_banPlayer (t : Moment) (sc : Scene) (id : PlayerId) (banner reason : String)
    (duration : UInt64) :
    sc.session.Waits t.now (sc.banPlayer t id banner reason duration).2.session := by
  unfold banPlayer
  cases sc.session.model.player? id with
  | none => exact sc.session.request_waits t.now _
  | some p =>
      have hedited (model : Match.Model) : sc.session.Waits t.now { sc.session with model } :=
        .still rfl rfl rfl rfl rfl rfl (.inl rfl)
      exact (hedited _).trans (Session.request_waits _ t.now _)

def Call.isAside : Call → Bool
  | turn .. | hear _ => false
  | act _ | ban .. | names _ | elsewhere .. => true

theorem waits_run (t : Moment) (sc : Scene) {call : Call} (h : call.isAside) :
    sc.session.Waits t.now (call.run t sc).session := by
  cases call with
  | turn | hear => cases h
  | act a => exact sc.session.act_waits t a
  | ban id banner reason duration => exact sc.waits_banPlayer t id banner reason duration
  | names | elsewhere => exact .still rfl rfl rfl rfl rfl rfl (.inl rfl)

section Running

variable {t : Moment} {sc : Scene} {call : Call} (haligned : sc.session.Aligned)

include haligned

theorem listens_run (t : Moment) (call : Call) :
    sc.session.Listens t.now (call.run t sc).session := by
  cases call with
  | turn dial arrivals out => exact listens_turn haligned dial arrivals out
  | hear data => exact (sc.listens_processData t data).1
  | act | ban | names | elsewhere => exact (waits_run t sc rfl).toCarries.listens

theorem lastReceived_run (hreads : call.reads sc = true) :
    (call.run t sc).session.lastReceived = t.now := by
  cases call with
  | turn dial arrivals out => exact lastReceived_turn haligned dial arrivals out hreads
  | hear data => exact (sc.listens_processData t data).2
  | act | ban | names | elsewhere => cases hreads

variable (hsilent : call.reads sc = false)

include hsilent

theorem lingers_run (hsocket : sc.session.socket = true)
    (hopen : (call.run t sc).session.socket = true) :
    sc.session.Lingers (call.run t sc).session := by
  cases call with
  | turn dial arrivals out =>
      obtain ⟨after, hcarries, htimed, hwaits⟩ :=
        timed_turn haligned dial arrivals out hsocket hopen
      have harrived := (sc.waits_arriveAll t hsilent).lingers htimed.socket
      have hafter : (sc.arriveAll t arrivals).session.Lingers after :=
        ⟨hcarries.settings, hcarries.lastReceived, htimed.accepted, htimed.pingSentAt⟩
      exact (harrived.trans hafter).trans (hwaits.lingers hopen)
  | hear data => cases hsilent
  | act | ban | names | elsewhere => exact (waits_run t sc rfl).lingers hopen

theorem lingers_of_accepted (haccepted : (call.run t sc).session.stage.isAccepted = true) :
    sc.session.Lingers (call.run t sc).session := by
  have hopen : (call.run t sc).session.socket = true := by
    rw [((listens_run haligned t call).aligned haligned).socket]
    exact Session.Stage.isOpen_of_isAccepted haccepted
  refine lingers_run haligned hsilent ?_ hopen
  cases call with
  | turn dial arrivals out =>
      cases hsocket : sc.session.socket with
      | true => rfl
      | false =>
          have hnot := not_accepted_turn haligned dial arrivals out hsocket hopen
          exact absurd (haccepted.symm.trans hnot) nofun
  | hear data => cases hsilent
  | act | ban | names | elsewhere => exact (waits_run t sc rfl).socket hopen

end Running

theorem patient_turn {t : Moment} {sc : Scene} (haligned : sc.session.Aligned) {dial : Dial}
    {arrivals : List Arrival} {out : Outflow} (hsocket : sc.session.socket = true)
    (hsilent : (Call.turn dial arrivals out).reads sc = false)
    (hopen : (sc.turn t dial arrivals out).session.socket = true)
    (haccepted : sc.session.stage.isAccepted = true) {sent : Instant}
    (hping : sc.session.pingSentAt = some sent) :
    t.now.since (sc.session.lastReceived.max sent) < sc.session.settings.pingTimeout := by
  obtain ⟨after, -, htimed, -⟩ := timed_turn haligned dial arrivals out hsocket hopen
  have harrived := (sc.waits_arriveAll t hsilent).lingers htimed.socket
  rw [← harrived.settings, ← harrived.lastReceived]
  exact htimed.patient (harrived.accepted.trans haccepted) sent (harrived.pingSentAt sent hping)

end Scene

end RemoteConsole
