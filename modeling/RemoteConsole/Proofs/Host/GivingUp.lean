import RemoteConsole.Proofs.Host.Calls
import RemoteConsole.Proofs.Host.Lines
import RemoteConsole.Proofs.Session.Failures

namespace RemoteConsole

open Session (Action Works Reaches Move)
open Wire (Line Bytes)

/-- Never ends a session for good. -/
def Patient (answer : Session → List Action) : Prop :=
  ∀ s, ∀ a ∈ answer s, ∀ reason, a ≠ .terminate reason

namespace Scene

variable (t : Moment) (sc : Scene)

theorem reaches_finishResponse : sc.session.Reaches t (sc.finishResponse t).session := by
  unfold finishResponse
  split
  · exact .refl _
  · have htaken : sc.session.Reaches t (sc.onSession ({ · with response := none })).session :=
      Works.reaches ⟨rfl, rfl, rfl, rfl, rfl, rfl, id⟩
    exact htaken.trans (tends_handleAll t _ _).works.reaches

theorem reaches_receive (line : Line) : sc.session.Reaches t (sc.receive t line).2.session := by
  unfold receive
  cases line.kind with
  | version | other => exact .refl _
  | authenticated => exact sc.session.reaches_receiveAuthenticated t line
  | error => exact sc.session.reaches_receiveError t line
  | echo => exact Works.reaches ⟨rfl, rfl, rfl, rfl, rfl, rfl, id⟩
  | response => exact (sc.session.works_receiveResponse t.now line).reaches
  | log =>
      dsimp only
      split
      · exact (sc.tends_handleAll t _).works.reaches
      · exact .refl _

theorem reaches_read {sc read : Scene} (h : sc.Reacts t read) :
    sc.session.Reaches t read.session := by
  rcases h with ⟨line, rfl⟩ | ⟨line, rfl⟩
  · exact sc.session.reaches_receiveBanner t line
  · have hanswer : sc.session.Reaches t
        (if line.kind = .response then sc else sc.finishResponse t).session := by
      split
      · exact .refl _
      · exact sc.reaches_finishResponse t
    have hread := hanswer.trans (reaches_receive t _ line)
    exact hread.trans (Session.works_syncTravelling _).reaches

section Calls

variable {t} {sc} {start : Session}

theorem patient_reaches (answer : Session → List Action) (hanswer : Patient answer)
    (seen : Session) (a : Action) (ha : a ∈ answer seen) (s : Session) (h : start.Reaches t s) :
    start.Reaches t (s.act t a).2 :=
  h.trans (s.reaches_act t (hanswer seen a ha))

theorem reaches_flush (hhost : sc.host.Answers Patient) (h : start.Reaches t sc.session) :
    start.Reaches t (sc.flush t).session :=
  flush_keeps patient_reaches hhost
    (fun _ _ _ _ hs => hs.trans (Works.reaches ⟨rfl, rfl, rfl, rfl, rfl, rfl, id⟩)) h

theorem reaches_processLine (hhost : sc.host.Answers Patient) (h : start.Reaches t sc.session)
    (line : Bytes) : start.Reaches t (sc.processLine t line).session :=
  processLine_keeps_of_reads patient_reaches (fun _ hreacts => h.trans (reaches_read t hreacts))
    (fun _ _ _ _ hs => hs.trans (Works.reaches ⟨rfl, rfl, rfl, rfl, rfl, rfl, id⟩)) hhost h line

structure Gone (t : Moment) (start : Session) (sc : Scene) : Prop where
  patient : sc.host.Answers Patient
  reaches : start.Reaches t sc.session

namespace Gone

theorem onSession (h : Gone t start sc) {f : Session → Session}
    (hf : sc.session.Reaches t (f sc.session)) : Gone t start (sc.onSession f) :=
  ⟨h.patient, h.reaches.trans hf⟩

theorem flush (h : Gone t start sc) : Gone t start (sc.flush t) :=
  ⟨by rw [host_flush]; exact h.patient, reaches_flush h.patient h.reaches⟩

theorem processLines (h : Gone t start sc) (fuel : Nat) :
    Gone t start (sc.processLines t fuel) := by
  induction fuel generalizing sc with
  | zero => exact h
  | succ fuel ih =>
      unfold Scene.processLines
      split
      · exact h
      · rcases sc.session.framer.next with ⟨_ | line, framer⟩
        · exact h.onSession (Works.reaches ⟨rfl, rfl, rfl, rfl, rfl, rfl, id⟩)
        · have hread := h.onSession (f := ({ · with framer }))
            (Works.reaches ⟨rfl, rfl, rfl, rfl, rfl, rfl, id⟩)
          refine ih ⟨hread.patient.sameBut (sameBut_processLine t _ line), ?_⟩
          exact reaches_processLine hread.patient hread.reaches line

theorem processData (h : Gone t start sc) (data : Bytes) : Gone t start (sc.processData t data) :=
  ((h.onSession (Works.reaches ⟨rfl, rfl, rfl, rfl, rfl, rfl, id⟩)).processLines _).flush

theorem arrive (h : Gone t start sc) (a : Arrival) : Gone t start (sc.arrive t a) := by
  unfold Scene.arrive
  split
  · exact h
  · rename_i hsocket
    have hsocket : sc.session.socket = true := by simpa using hsocket
    cases a with
    | bytes data => exact h.processData data
    | ended => exact h.onSession (Session.reaches_fail t _ (.inr (.inl hsocket)))
    | failed reason => exact h.onSession (Session.reaches_fail t _ (.inr (.inl hsocket)))

theorem advance (h : Gone t start sc) (hgoes : sc.session.terminated = none) (dial : Dial)
    (arrivals : List Arrival) : Gone t start (sc.advance t dial arrivals) := by
  unfold Scene.advance
  split
  · rename_i hstage
    split
    · rename_i hdue
      exact h.onSession (Session.reaches_startConnect t _ hgoes hstage hdue)
    · exact h
  · exact h.onSession (Session.reaches_pollConnect t _ dial)
  · have harrivals : Gone t start ((arrivals.take readsPerTurn).foldl (Scene.arrive t) sc) :=
      List.foldlRecOn (motive := Gone t start) _ _ h fun _ hsc a _ => hsc.arrive a
    dsimp only
    split
    · rename_i hsocket
      exact harrivals.onSession (Session.reaches_runTimers t _ hsocket)
    · exact harrivals

theorem turn (h : Gone t start sc) (dial : Dial) (arrivals : List Arrival) (out : Outflow) :
    Gone t start (sc.turn t dial arrivals out) := by
  unfold Scene.turn
  split
  · exact h
  · rename_i hgoes
    have hadvanced := h.advance (Option.not_isSome_iff_eq_none.1 hgoes) dial arrivals
    exact (hadvanced.onSession (Session.reaches_drainOutbound t _ out)).flush

theorem run (h : Gone t start sc) {call : Call}
    (hcall : ∀ reason, call ≠ .act (.terminate reason)) : Gone t start (call.run t sc) := by
  cases call with
  | turn dial arrivals out => exact h.turn dial arrivals out
  | hear data => exact h.processData data
  | act a =>
      refine h.onSession (f := fun s => (s.act t a).2) (Session.reaches_act t _ fun reason ha => ?_)
      exact hcall reason (ha ▸ rfl)
  | ban id banner reason duration =>
      obtain ⟨model, hspeaks⟩ := sc.banPlayer_speaks t id banner reason duration
      have hserves := (sc.serves_banPlayer t id banner reason duration).host
      refine ⟨h.patient.sameBut hserves, h.reaches.trans (Reaches.trans ?_ hspeaks.works.reaches)⟩
      exact Works.reaches ⟨rfl, rfl, rfl, rfl, rfl, rfl, fun hstage => hstage⟩
  | names nameOf =>
      exact h.onSession (f := (·.settleNames nameOf))
        (Works.reaches ⟨rfl, rfl, rfl, rfl, rfl, rfl, id⟩)
  | elsewhere bans ladder memory =>
      have hsame : sc.host.SameBut { sc.host with bans, ladder } := rfl
      refine ⟨h.patient.sameBut hsame, h.reaches.trans ?_⟩
      exact Works.reaches ⟨rfl, rfl, rfl, rfl, rfl, rfl, id⟩

end Gone

end Calls

/-- The moves of a session in the course of a run, call by call. -/
inductive Course : Scene → List (Moment × Call) → List Move → Prop where
  | done (sc : Scene) : Course sc [] []
  | call {sc : Scene} {t : Moment} {call : Call} {calls : List (Moment × Call)}
      {moves more : List Move} (times : ∀ move ∈ moves, move.At t)
      (lawful : Move.AllLawful sc.session moves)
      (leads : Move.runAll sc.session moves = (call.run t sc).session)
      (asked : ∀ reason, call = .act (.disconnect reason) → moves = [.disconnect t reason])
      (rest : Course (call.run t sc) calls more) : Course sc ((t, call) :: calls) (moves ++ more)

theorem Course.leads {sc : Scene} {calls : List (Moment × Call)} {moves : List Move}
    (h : Course sc calls moves) : Move.AllLawful sc.session moves ∧
      Move.runAll sc.session moves = (sc.after calls).session := by
  induction h with
  | done sc => exact ⟨trivial, rfl⟩
  | call times lawful leads asked rest ih =>
      rw [Move.allLawful_append, Move.runAll_append, leads]
      exact ⟨⟨lawful, ih.1⟩, ih.2⟩

/-- Every run has a course, unless somebody ends the session. -/
theorem exists_course {sc : Scene} (hhost : sc.host.Answers Patient)
    {calls : List (Moment × Call)} (hcalls : ∀ call ∈ calls, ∀ reason,
      call.2 ≠ .act (.terminate reason)) : ∃ moves, Course sc calls moves := by
  induction calls generalizing sc with
  | nil => exact ⟨[], .done sc⟩
  | cons call calls ih =>
      obtain ⟨t, call⟩ := call
      obtain ⟨hcall, hcalls⟩ := List.forall_mem_cons.1 hcalls
      have hgone : Gone t sc.session (call.run t sc) := Gone.run ⟨hhost, .refl _⟩ hcall
      obtain ⟨more, hmore⟩ := ih hgone.patient hcalls
      -- to drop the connection is one move, whatever else would lead to the same state
      by_cases hasked : ∃ reason, call = .act (.disconnect reason)
      · obtain ⟨reason, rfl⟩ := hasked
        have htimes : ∀ move ∈ [Move.disconnect t reason], move.At t :=
          fun move hmove => by rw [List.mem_singleton.1 hmove]; rfl
        refine ⟨_, .call htimes ⟨trivial, trivial⟩ rfl ?_ hmore⟩
        rintro _ ⟨⟩
        rfl
      · obtain ⟨moves, htimes, hlawful, hleads⟩ := hgone.reaches
        exact ⟨_, .call htimes hlawful hleads (fun reason h => absurd ⟨reason, h⟩ hasked) hmore⟩

end Scene

namespace Session

/-- The session has ended for good. Nothing is left of a connection, not even an attempt at one. -/
structure Over (s : Session) : Prop where
  terminated : s.terminated.isSome
  socket : s.socket = false
  dialing : s.dialing = false

namespace Over

variable {s after : Session}

theorem status (h : s.Over) : s.status = .terminated := by
  rw [Session.status, if_pos h.terminated]

theorem works (h : s.Over) (hworks : s.Works after) : after.Over := by
  exact ⟨hworks.terminated ▸ h.terminated, hworks.socket.trans h.socket,
    hworks.dialing.trans h.dialing⟩

theorem act (h : s.Over) (t : Moment) (a : Action) : (s.act t a).2.Over := by
  rcases s.act_cases t a with hspeaks | hparts
  · exact h.works hspeaks.works
  · have hended := hparts.ended h.terminated
    obtain ⟨reason, hsame⟩ := hparts.same
    rw [hsame] at hended ⊢
    exact ⟨hended, rfl, rfl⟩

end Over

end Session

namespace Scene

variable {sc : Scene}

theorem turn_of_over (h : sc.session.Over) (t : Moment) (dial : Dial) (arrivals : List Arrival)
    (out : Outflow) : sc.turn t dial arrivals out = sc := by
  rw [turn, if_pos h.terminated]

theorem over_run (h : sc.session.Over) (t : Moment) (call : Call) :
    (call.run t sc).session.Over := by
  cases call with
  | turn dial arrivals out =>
      rw [Call.run, turn_of_over h]
      exact h
  | hear data =>
      have hheard : (sc.onSession fun s => { s with
          framer := s.framer.push data, lastReceived := t.now }).session.Over :=
        ⟨h.terminated, h.socket, h.dialing⟩
      rw [Call.run, processData, processLines_of_ended hheard.terminated]
      exact flush_keeps (any_answer_keeps fun _ a hs => hs.act t a) (Host.answers_any _)
        (fun _ _ _ _ hs => ⟨hs.terminated, hs.socket, hs.dialing⟩) hheard
  | act a => exact h.act t a
  | ban id banner reason duration =>
      obtain ⟨model, hspeaks⟩ := sc.banPlayer_speaks t id banner reason duration
      have hedited : Session.Over { sc.session with model } := ⟨h.terminated, h.socket, h.dialing⟩
      exact hedited.works hspeaks.works
  | names nameOf => exact ⟨h.terminated, h.socket, h.dialing⟩
  | elsewhere bans ladder memory => exact ⟨h.terminated, h.socket, h.dialing⟩

theorem over_after (h : sc.session.Over) (calls : List (Moment × Call)) :
    (sc.after calls).session.Over := by
  induction calls generalizing sc with
  | nil => exact h
  | cons call calls ih => exact ih (over_run h call.1 call.2)

theorem patient_builtin : ∀ c ∈ Chat.builtin.commands, ∀ reference p params,
    Patient (c.run reference · p params) := by
  intro c hc reference p params s a ha reason
  rcases List.mem_cons.1 hc with rfl | hc
  · rw [List.mem_singleton.1 ha]
    nofun
  · rw [List.mem_singleton.1 hc] at ha
    rw [List.mem_singleton.1 ha]
    nofun

/-- Unless somebody ends it, a session goes on until it has failed as often in a row as it may, or
until an error ends it for good. Every failure is counted, a login makes up for all of them, and the
waits grow until they are as long as they may be. Once the session has ended no call brings it
back. -/
theorem a_session_gives_up_exactly_and_for_good {host : Host} (hhost : host.Answers Patient)
    (settings : ServerSettings) (now : Instant) {calls : List (Moment × Call)}
    (hcalls : ∀ call ∈ calls, ∀ reason, call.2 ≠ .act (.terminate reason)) :
    ∃ moves, Course (start host settings now) calls moves ∧
      (∀ before move behind, moves = before ++ move :: behind →
        Session.Counted settings (Move.failures before) (Move.runAll (.idle settings now) before) ∧
          move.Takes settings (Move.failures before) (Move.runAll (.idle settings now) before)) ∧
      Session.Counted settings (Move.failures moves)
        ((start host settings now).after calls).session ∧
      Monotone settings.delay ∧
      (((start host settings now).after calls).session.terminated.isSome → ∀ more,
        let later := ((start host settings now).after calls).after more
        later.session.Over ∧ later.session.status = .terminated ∧
          ∀ t dial arrivals out, later.turn t dial arrivals out = later) := by
  have hidle : Session.Counted settings 0 (.idle settings now) := .of_none rfl rfl nofun
  have hhost : (start host settings now).host.Answers Patient := hhost
  obtain ⟨moves, hcourse⟩ := exists_course hhost hcalls
  obtain ⟨hlawful, hleads⟩ := hcourse.leads
  have hcounted : Session.Counted settings (Move.failures moves)
      ((start host settings now).after calls).session := hleads ▸ hidle.runAll hlawful
  refine ⟨moves, hcourse, ?_, hcounted, settings.delay_mono, ?_⟩
  · rintro before move behind rfl
    exact ⟨hidle.runAll (Move.allLawful_append.1 hlawful).1, hidle.takes hlawful⟩
  · intro hended more
    obtain ⟨hsocket, hdialing⟩ := hcounted.ended hended
    have hover := over_after ⟨hended, hsocket, hdialing⟩ more
    exact ⟨hover, hover.status, turn_of_over hover⟩

theorem a_session_gives_up_exactly_and_for_good_after_two_failures :
    let host : Host := { observers := { plugins := [{
      name := "bouncer"
      onEvent := fun _ e => if e.kind = .connected then [.disconnect "not now"] else [] }] } }
    let settings : ServerSettings := { name := "eu", maxAttempts := 2 }
    let calls : List (Moment × Call) := [
      (⟨⟨1⟩, 0⟩, .turn .underway [] (.took 0)),
      (⟨⟨2⟩, 7⟩, .turn (.failed "refused") [] (.took 0)),
      (⟨⟨5009⟩, 0⟩, .turn .underway [] (.took 0)),
      (⟨⟨5010⟩, 0⟩, .turn .opened [] (.took 0))]
    let sc := (start host settings ⟨0⟩).after calls
    sc.session.terminated = some "gave up after 2 failed attempts" ∧
      ∃ moves, Course (start host settings ⟨0⟩) calls moves ∧
        (∀ before move behind, moves = before ++ move :: behind →
          Session.Counted settings (Move.failures before)
              (Move.runAll (.idle settings ⟨0⟩) before) ∧
            move.Takes settings (Move.failures before)
              (Move.runAll (.idle settings ⟨0⟩) before)) ∧
        Session.Counted settings (Move.failures moves) sc.session ∧
        Monotone settings.delay ∧
        (sc.session.terminated.isSome → ∀ more,
          let later := sc.after more
          later.session.Over ∧ later.session.status = .terminated ∧
            ∀ t dial arrivals out, later.turn t dial arrivals out = later) := by
  intro host settings calls
  have hpatient : host.Answers Patient := by
    refine ⟨fun p hp e => ?_, fun p hp line => ?_, fun p hp text => ?_,
      fun r hr => absurd hr List.not_mem_nil, patient_builtin⟩
    · rw [List.mem_singleton.1 hp]
      intro s a ha reason
      dsimp only at ha
      split at ha
      · rw [List.mem_singleton.1 ha]
        nofun
      · exact absurd ha List.not_mem_nil
    · rw [List.mem_singleton.1 hp]
      exact fun _ a ha => absurd ha List.not_mem_nil
    · rw [List.mem_singleton.1 hp]
      exact fun _ a ha => absurd ha List.not_mem_nil
  have hcalls : ∀ call ∈ calls, ∀ reason, call.2 ≠ .act (.terminate reason) := by
    simp [calls]
  have hended : ((start host settings ⟨0⟩).after calls).session.terminated =
      some "gave up after 2 failed attempts" := by decide +kernel
  exact ⟨hended, a_session_gives_up_exactly_and_for_good hpatient settings ⟨0⟩ hcalls⟩

end Scene

end RemoteConsole
