import RemoteConsole.Proofs.Host.Calls
import RemoteConsole.Proofs.Wire.Framing

namespace RemoteConsole

open Session (Action Advances)
open Wire (Line Bytes)

namespace Session

def Blank (s : Session) : Prop :=
  (s.model.players = [] ∧ s.model.buildings = [] ∧ s.model.phase = {}) ∧
    s.delimiter = none ∧ s.response = none ∧ s.pingSentAt = none ∧ s.outbound = [] ∧
    s.framer.buffer = [] ∧ s.framer.discarding = false

structure Coherent (s : Session) : Prop where
  socket : s.socket = s.stage.isOpen
  dialing : s.dialing = true ↔ s.stage = .connecting
  blank : s.socket = false → s.Blank
  travelling : s.stage = .travelling → s.model.phase.travelling = true
  fullyConnected : s.stage = .fullyConnected → s.model.phase.travelling = false

theorem coherent_idle (settings : ServerSettings) (now : Instant) :
    (idle settings now).Coherent where
  socket := rfl
  dialing := ⟨nofun, nofun⟩
  blank _ := ⟨⟨rfl, rfl, rfl⟩, rfl, rfl, rfl, rfl, rfl, rfl⟩
  travelling := nofun
  fullyConnected := nofun

variable {s after : Session}

theorem Parts.coherent (h : s.Parts after) : after.Coherent := by
  obtain ⟨reason, hsame⟩ := h.same
  rw [hsame]
  have hblank : (s.close reason).Blank := ⟨⟨rfl, rfl, rfl⟩, rfl, rfl, rfl, rfl, rfl, rfl⟩
  exact ⟨rfl, ⟨nofun, nofun⟩, fun _ => hblank, nofun, nofun⟩

theorem syncTravelling_travelling (h : s.syncTravelling.stage = .travelling) :
    s.syncTravelling.model.phase.travelling = true := by
  unfold syncTravelling at *
  split at h <;> simp_all

theorem syncTravelling_fullyConnected (h : s.syncTravelling.stage = .fullyConnected) :
    s.syncTravelling.model.phase.travelling = false := by
  unfold syncTravelling at *
  split at h <;> simp_all

namespace Coherent

variable (h : s.Coherent)

include h

theorem speaks (hafter : s.Speaks after) : after.Coherent := by
  have hsocket := hafter.advances.socket
  refine ⟨?_, ?_, fun hnone => ?_, ?_, ?_⟩
  · rw [hafter.same]
    exact h.socket
  · rw [hafter.same]
    exact h.dialing
  · have hnone : s.socket = false := hsocket.symm.trans hnone
    rw [hafter.silent hnone]
    exact h.blank hnone
  · rw [hafter.same]
    exact h.travelling
  · rw [hafter.same]
    exact h.fullyConnected

theorem act (t : Moment) (a : Action) : (s.act t a).2.Coherent := by
  rcases s.act_cases t a with hspeaks | hparts
  · exact h.speaks hspeaks
  · exact hparts.coherent

theorem online (hsocket : s.socket = true) (hstill : after.socket = s.socket)
    (hdialing : after.dialing = s.dialing) (hstage : after.stage = s.stage)
    (hphase : after.model.phase = s.model.phase) : after.Coherent where
  socket := by rw [hstill, hstage, h.socket]
  dialing := by rw [hdialing, hstage, h.dialing]
  blank hnone := absurd (hstill.symm.trans hnone) (by simp [hsocket])
  travelling := by rw [hstage, hphase]; exact h.travelling
  fullyConnected := by rw [hstage, hphase]; exact h.fullyConnected

theorem startConnect (hstage : s.stage = .disconnected) : s.startConnect.Coherent where
  socket := by
    change s.socket = false
    rw [h.socket, hstage]
    rfl
  dialing := ⟨fun _ => rfl, fun _ => rfl⟩
  blank := h.blank
  travelling := nofun
  fullyConnected := nofun

theorem pollConnect (hstage : s.stage = .connecting) (t : Moment) (dial : Dial) :
    (s.pollConnect t dial).Coherent := by
  have hdialing : (!s.dialing) ≠ true := by simp [h.dialing.2 hstage]
  unfold Session.pollConnect
  rw [if_neg hdialing]
  cases dial with
  | underway => exact h
  | opened => exact ⟨rfl, ⟨nofun, nofun⟩, nofun, nofun, nofun⟩
  | failed reason => exact (fail_parts _ t _).coherent

theorem drainOutbound (t : Moment) (out : Outflow) : (s.drainOutbound t out).Coherent := by
  rcases s.drainOutbound_cases t out with ⟨hsame, hempty⟩ | hparts
  · rw [hsame]
    refine ⟨h.socket, h.dialing, fun hnone => ?_, h.travelling, h.fullyConnected⟩
    obtain ⟨hmodel, hdelimiter, hresponse, hping, -, hframer⟩ := h.blank hnone
    exact ⟨hmodel, hdelimiter, hresponse, hping, hempty hnone, hframer⟩
  · exact hparts.coherent

theorem settleNames (nameOf : Address → Option String) : (s.settleNames nameOf).Coherent where
  socket := h.socket
  dialing := h.dialing
  blank hnone := by
    obtain ⟨⟨hplayers, hmodel⟩, hothers⟩ := h.blank hnone
    exact ⟨⟨by rw [Session.settleNames, hplayers]; rfl, hmodel⟩, hothers⟩
  travelling := h.travelling
  fullyConnected := h.fullyConnected

end Coherent

end Session

namespace Scene

section Keeping

variable (t : Moment) {sc : Scene} (h : sc.session.Coherent)

include h

theorem coherent_flush : (sc.flush t).session.Coherent := by
  refine flush_keeps (any_answer_keeps fun _ a hs => hs.act t a) sc.host.answers_any ?_ h
  exact fun s e queue _ hs => ⟨hs.socket, hs.dialing, hs.blank, hs.travelling, hs.fullyConnected⟩

theorem coherent_callPlugins (notice : Notice) (wants : Plugin → Bool)
    (answer : Plugin → Session → List Action) :
    (sc.callPlugins t notice wants answer).session.Coherent :=
  callPlugins_keeps (any_answer_keeps fun _ a hs => hs.act t a) notice wants
    (fun _ _ => trivial) h

section Receiving

variable (hsocket : sc.session.socket = true)

include hsocket

theorem coherent_banner (line : Bytes) : (sc.session.receiveBanner t line).Coherent := by
  rcases sc.session.receiveBanner_cases t line with
    ⟨delimiter, protocol, gameVersion, hspeaks⟩ | ⟨hparts, -⟩
  · have hnoted : Session.Coherent { sc.session with delimiter, protocol, gameVersion } :=
      h.online hsocket rfl rfl rfl rfl
    exact hnoted.speaks hspeaks
  · exact hparts.coherent

theorem coherent_absorb (line : Line) : (sc.absorb t line).2.session.Coherent := by
  rcases sc.yields_absorb t line with hserves | ⟨between, -, hfalls⟩
  · obtain ⟨events, hevents⟩ := hserves.session
    have hstill := hevents.socket
    refine ⟨?_, ?_, fun hnone => ?_, ?_, ?_⟩
    · rw [hstill, h.socket, hevents.isOpen]
    · rw [hevents.dialing, hevents.connecting, h.dialing]
    · exact absurd (hstill.symm.trans hnone) (by simp [hsocket])
    · exact Session.syncTravelling_travelling
    · exact Session.syncTravelling_fullyConnected
  · exact hfalls.session.coherent

theorem coherent_processLine (line : Bytes) : (sc.processLine t line).session.Coherent := by
  rcases sc.processLine_cases t line with hsame | ⟨read, heard, text, hreacts, hheard, hline⟩
  · rw [hsame]
    exact h
  · have hread : read.session.Coherent := by
      rcases hreacts with ⟨line, rfl⟩ | ⟨line, rfl⟩
      · exact coherent_banner t h hsocket line
      · exact coherent_absorb t h hsocket line
    rw [hline]
    rcases hheard with rfl | ⟨other, rfl⟩
    · exact coherent_callPlugins t (coherent_flush t hread) _ _ _
    · exact coherent_callPlugins t (coherent_callPlugins t (coherent_flush t hread) _ _ _) _ _ _

end Receiving

theorem coherent_processLines (fuel : Nat) : (sc.processLines t fuel).session.Coherent := by
  induction fuel generalizing sc with
  | zero => exact h
  | succ fuel ih =>
      unfold processLines
      split
      · exact h
      · cases hsocket : sc.session.socket with
        | false =>
            obtain ⟨-, -, -, -, -, hbuffer, hdiscarding⟩ := h.blank hsocket
            have hnext : sc.session.framer.next = (none, sc.session.framer) := by
              rw [Wire.Framer.next_of_open (by simp [hbuffer]), Wire.Framer.settle, if_neg]
              simp [hbuffer]
            rw [hnext]
            exact h
        | true =>
            split
            · exact h.online hsocket rfl rfl rfl rfl
            · rename_i line framer _
              have hframed : (sc.onSession ({ · with framer })).session.Coherent :=
                h.online hsocket rfl rfl rfl rfl
              exact ih (coherent_processLine t hframed hsocket line)

theorem coherent_processData (hsocket : sc.session.socket = true) (data : Bytes) :
    (sc.processData t data).session.Coherent := by
  have hheard : (sc.onSession fun s =>
      { s with framer := s.framer.push data, lastReceived := t.now }).session.Coherent :=
    h.online hsocket rfl rfl rfl rfl
  exact coherent_flush t (coherent_processLines t hheard _)

theorem coherent_banPlayer (id : PlayerId) (banner reason : String) (duration : UInt64) :
    (sc.banPlayer t id banner reason duration).2.session.Coherent := by
  unfold banPlayer
  cases hplayer : sc.session.model.player? id with
  | none => exact h.speaks (sc.session.request_speaks t.now _)
  | some p =>
      -- there is a player, so there is a connection
      have hsocket : sc.session.socket = true := by
        by_contra hnone
        obtain ⟨⟨hplayers, -⟩, -⟩ := h.blank (Bool.eq_false_iff.2 hnone)
        rw [Match.Model.player?, hplayers] at hplayer
        cases hplayer
      refine Session.Coherent.speaks ?_ (Session.request_speaks _ t.now _)
      exact h.online hsocket rfl rfl rfl rfl

end Keeping

theorem withstands_coherent (t : Moment) :
    Withstands (·.socket = true) (·.session.Coherent) t where
  connect _ h hstage := h.startConnect hstage
  poll _ dial h hstage := h.pollConnect hstage t dial
  hear _ data h hsocket := coherent_processData t h hsocket data
  lose sc fault _ := (sc.session.fail_parts t fault).coherent
  timers sc h := by
    rcases sc.session.runTimers_cases t with hspeaks | hparts
    · exact h.speaks hspeaks
    · exact hparts.coherent
  drain _ out h := h.drainOutbound t out
  flush _ h := coherent_flush t h
  act _ a h := h.act t a
  ban _ id banner reason duration h := coherent_banPlayer t h id banner reason duration
  names _ nameOf h := h.settleNames nameOf
  elsewhere _ _ _ _ h := ⟨h.socket, h.dialing, h.blank, h.travelling, h.fullyConnected⟩

/-- Whenever a call returns, the parts of a session agree with each other, whatever came from the
network and whatever observers did about it, as long as bytes come only through a connection. -/
theorem session_is_coherent_between_calls (host : Host) (settings : ServerSettings)
    (now : Instant) (calls : List (Moment × Call))
    (honline : (start host settings now).Hears (·.socket = true) calls) :
    ((start host settings now).after calls).session.Coherent :=
  Withstands.after (fun _ hsocket => hsocket) withstands_coherent
    (Session.coherent_idle settings now) honline

theorem session_is_coherent_between_calls_when_an_observer_hangs_up :
    let host : Host := { observers := { plugins := [{
      name := "greeter"
      wants := (· == .authenticated)
      onEvent := fun _ _ => [.disconnect "enough"] }] } }
    let sc := start host { name := "eu" } ⟨0⟩
    let calls : List (Moment × Call) :=
      [(⟨⟨1⟩, 0⟩, .turn .underway [] (.took 0)), (⟨⟨2⟩, 0⟩, .turn .opened [] (.took 0)),
        (⟨⟨3⟩, 0⟩, .hear ("v005\x02game\naroot\nr1\n".toUTF8.toList)),
        (⟨⟨4⟩, 0⟩, .turn .underway [] (.took 0))]
    sc.Hears (·.socket = true) calls ∧ (sc.after calls).session.Coherent ∧
      (sc.after calls).session.socket = false := by
  intro host sc calls
  have honline : sc.Hears (·.socket = true) calls := ⟨nofun, nofun, fun _ _ => rfl, nofun, trivial⟩
  have hleft : (sc.after calls).session.socket = false := by decide +kernel
  exact ⟨honline, session_is_coherent_between_calls host _ ⟨0⟩ calls honline, hleft⟩

end Scene

end RemoteConsole
