import RemoteConsole.Proofs.Host.Calls

namespace RemoteConsole

open Session (Action Advances Speaks Parts Stage)
open Wire (Line Bytes)

/-- What observers hear of one connection from its beginning to its end. -/
def episodes : List (List EventKind) :=
  [[.connected, .disconnected],
    [.connected, .authenticated, .disconnected],
    [.connected, .authenticated, .fullyConnected, .disconnected]]

theorem history_of_not_open {stage : Stage} (h : stage.isOpen = false) : stage.history = [] := by
  cases stage with
  | disconnected | connecting => rfl
  | _ => cases h

theorem history_mem_episodes {stage : Stage} (h : stage.isOpen = true) :
    stage.history ++ [.disconnected] ∈ episodes := by
  cases stage with
  | disconnected | connecting => cases h
  | _ => decide

theorem forall_mem_episodes_append {ended : List (List EventKind)} {stage : Stage}
    (hended : ∀ kinds ∈ ended, kinds ∈ episodes) (hopen : stage.isOpen = true) :
    ∀ kinds ∈ ended ++ [stage.history ++ [.disconnected]], kinds ∈ episodes := by
  intro kinds hkinds
  rcases List.mem_append.1 hkinds with hkinds | hkinds
  · exact hended kinds hkinds
  · rw [List.mem_singleton.1 hkinds]
    exact history_mem_episodes hopen

/-- The events so far are those of connections that have ended, and of the one that is open. -/
structure Session.Recounts (delivered : List Event) (s : Session) : Prop where
  socket : s.socket = s.stage.isOpen
  kinds : ∃ ended : List (List EventKind), (∀ kinds ∈ ended, kinds ∈ episodes) ∧
    sessionKinds (delivered ++ s.queue) = ended.flatten ++ s.stage.history

namespace Session.Recounts

variable {delivered events : List Event} {s after : Session} (h : s.Recounts delivered)

include h

theorem advances (hafter : Advances events s after) : after.Recounts delivered where
  socket := by rw [hafter.socket, h.socket, hafter.isOpen]
  kinds := by
    obtain ⟨ended, hended, hkinds⟩ := h.kinds
    refine ⟨ended, hended, ?_⟩
    rw [hafter.queue, hafter.history, ← List.append_assoc, sessionKinds_append, hkinds,
      List.append_assoc]

theorem speaks (hafter : s.Speaks after) : after.Recounts delivered :=
  h.advances hafter.advances

theorem still (hqueue : after.queue = s.queue) (hstage : after.stage = s.stage)
    (hsocket : after.socket = s.socket) : after.Recounts delivered :=
  ⟨by rw [hsocket, hstage, h.socket], by rw [hqueue, hstage]; exact h.kinds⟩

theorem offline (hstage : s.stage.isOpen = false) (hqueue : after.queue = s.queue)
    (hsocket : after.socket = s.socket) (hafter : after.stage.isOpen = false) :
    after.Recounts delivered where
  socket := by rw [hsocket, h.socket, hstage, hafter]
  kinds := by
    obtain ⟨ended, hended, hkinds⟩ := h.kinds
    refine ⟨ended, hended, ?_⟩
    rw [hqueue, hkinds, history_of_not_open hstage, history_of_not_open hafter]

theorem parts (hafter : s.Parts after) : after.Recounts delivered := by
  obtain ⟨reason, hsame⟩ := hafter.same
  rw [hsame]
  cases hsocket : s.socket with
  | false =>
      have hqueue : (s.close reason).queue = s.queue := by simp [close, hsocket]
      exact h.offline (h.socket.symm.trans hsocket) hqueue hsocket.symm rfl
  | true =>
      obtain ⟨ended, hended, hkinds⟩ := h.kinds
      have hqueue : (s.close reason).queue = s.queue ++ [.disconnected reason] := by
        simp [close, hsocket]
      have hopen : s.stage.isOpen = true := h.socket.symm.trans hsocket
      refine ⟨rfl, ended ++ [s.stage.history ++ [.disconnected]],
        forall_mem_episodes_append hended hopen, ?_⟩
      change sessionKinds (delivered ++ (s.close reason).queue) = _ ++ []
      rw [hqueue, ← List.append_assoc, sessionKinds_append, hkinds]
      simp [sessionKinds, Event.kind, EventKind.ofSession]

theorem act (t : Moment) (a : Action) : (s.act t a).2.Recounts delivered := by
  rcases s.act_cases t a with hspeaks | hparts
  · exact h.speaks hspeaks
  · exact h.parts hparts

theorem startConnect (hstage : s.stage = .disconnected) : s.startConnect.Recounts delivered :=
  h.offline (by rw [hstage]; rfl) rfl rfl rfl

theorem opened (hstage : s.stage = .connecting) (now : Instant) :
    (s.opened now).Recounts delivered where
  socket := rfl
  kinds := by
    obtain ⟨ended, hended, hkinds⟩ := h.kinds
    refine ⟨ended, hended, ?_⟩
    change sessionKinds (delivered ++ (s.queue ++ [.connected])) = _ ++ [.connected]
    rw [← List.append_assoc, sessionKinds_append, hkinds, hstage, List.append_assoc]
    rfl

theorem pollConnect (hstage : s.stage = .connecting) (t : Moment) (dial : Dial) :
    (s.pollConnect t dial).Recounts delivered := by
  have hclosed : s.stage.isOpen = false := by rw [hstage]; rfl
  unfold Session.pollConnect
  split
  · exact h.offline hclosed rfl rfl rfl
  · cases dial with
    | underway => exact h
    | opened => exact h.opened hstage t.now
    | failed reason =>
        have hgiven : Recounts delivered { s with dialing := false } :=
          h.offline hclosed rfl rfl hclosed
        exact hgiven.parts (fail_parts _ t _)

end Session.Recounts

namespace Scene

def Recounts (sc : Scene) : Prop :=
  ∃ delivered, sc.told.filter (·.notice.isEvent) = delivered.flatMap sc.host.callbacks ∧
    sc.session.Recounts delivered

variable {t : Moment} {sc after : Scene}

theorem Recounts.of_session (h : sc.Recounts) (hhost : sc.host.SameBut after.host)
    (hjournal : after.journal = sc.journal)
    (hsession : ∀ delivered, sc.session.Recounts delivered → after.session.Recounts delivered) :
    after.Recounts := by
  obtain ⟨delivered, htold, hrecounts⟩ := h
  have hcallbacks : after.host.callbacks = sc.host.callbacks := by
    rw [hhost]
    rfl
  have hsame : after.told = sc.told := by rw [told, hjournal, told]
  exact ⟨delivered, by rw [hsame, hcallbacks, htold], hsession delivered hrecounts⟩

theorem Recounts.yields (h : sc.Recounts) (hafter : sc.Yields after) : after.Recounts := by
  have hserves {sc after : Scene} (h : sc.Recounts) (hserves : sc.Serves after) :
      after.Recounts := by
    obtain ⟨events, hevents⟩ := hserves.session
    exact h.of_session hserves.host hserves.journal fun _ hrecounts => hrecounts.advances hevents
  rcases hafter with hafter | ⟨between, hbetween, hfalls⟩
  · exact hserves h hafter
  · refine (hserves h hbetween).of_session (hfalls.host ▸ .refl _) hfalls.journal ?_
    exact fun _ hrecounts => hrecounts.parts hfalls.session

theorem Recounts.onSession {f : Session → Session} (h : sc.Recounts)
    (hf : ∀ delivered, sc.session.Recounts delivered → (f sc.session).Recounts delivered) :
    (sc.onSession f).Recounts :=
  h.of_session (.refl _) rfl hf

theorem Recounts.speaks {f : Session → Session} (h : sc.Recounts)
    (hf : sc.session.Speaks (f sc.session) ∨ sc.session.Parts (f sc.session)) :
    (sc.onSession f).Recounts := by
  refine h.onSession fun _ hrecounts => ?_
  rcases hf with hspeaks | hparts
  · exact hrecounts.speaks hspeaks
  · exact hrecounts.parts hparts

section Observers

variable (t)

theorem Recounts.callPlugins (h : sc.Recounts) {notice : Notice} (htells : notice.tells)
    (hother : notice.isEvent = false) (wants : Plugin → Bool)
    (answer : Plugin → Session → List Action) :
    (sc.callPlugins t notice wants answer).Recounts := by
  obtain ⟨delivered, htold, hrecounts⟩ := h
  have hnone : (sc.host.pluginCallbacks notice wants).filter (·.notice.isEvent) = [] := by
    apply List.filter_eq_nil_iff.2
    intro c hc
    rw [Host.notice_of_mem_pluginCallbacks hc, hother]
    exact Bool.false_ne_true
  refine ⟨delivered, ?_, ?_⟩
  · rw [told_callPlugins t sc notice htells, host_callPlugins, List.filter_append, hnone,
      List.append_nil, htold]
  · exact callPlugins_keeps (any_answer_keeps fun _ a hs => hs.act t a) notice wants
      (fun _ _ => trivial) hrecounts

theorem Recounts.deliver (h : sc.Recounts) {e : Event} {queue : List Event}
    (hqueue : sc.session.queue = e :: queue) :
    (((sc.onSession ({ · with queue })).deliver t e).routeChat t e).Recounts := by
  obtain ⟨delivered, htold, hrecounts⟩ := h
  have hevents : (sc.host.callbacks e).filter (·.notice.isEvent) = sc.host.callbacks e :=
    List.filter_eq_self.2 fun _ => Host.isEvent_of_mem_callbacks
  refine ⟨delivered ++ [e], ?_, ?_⟩
  · rw [told_routeChat, host_routeChat, told_deliver, host_deliver]
    change (sc.told ++ sc.host.callbacks e).filter (·.notice.isEvent) = _
    rw [List.filter_append, hevents, htold, List.flatMap_append, List.flatMap_singleton]
    rfl
  · have htaken : (sc.onSession ({ · with queue })).session.Recounts (delivered ++ [e]) := by
      refine ⟨hrecounts.socket, ?_⟩
      obtain ⟨ended, hended, hkinds⟩ := hrecounts.kinds
      refine ⟨ended, hended, ?_⟩
      rw [hqueue] at hkinds
      rw [List.append_assoc]
      exact hkinds
    have hact := any_answer_keeps (t := t) (P := (·.Recounts (delivered ++ [e])))
      fun _ a hs => hs.act t a
    have hdelivered := deliver_keeps hact (Host.answers_any _) e htaken
    exact routeChat_keeps hact (Host.answers_any _) e hdelivered

theorem Recounts.flush (h : sc.Recounts) : (sc.flush t).Recounts := by
  have hfrom (fuel : Nat) (sc : Scene) (h : sc.Recounts) : (sc.flushFrom t fuel).Recounts := by
    induction fuel generalizing sc with
    | zero => exact h
    | succ fuel ih =>
        unfold flushFrom
        split
        · exact h
        · rename_i e queue hqueue
          exact ih _ (h.deliver t hqueue)
  exact hfrom _ sc h

end Observers

section Receiving

variable (t)

theorem Recounts.processLine (h : sc.Recounts) (line : Bytes) :
    (sc.processLine t line).Recounts := by
  rcases sc.processLine_cases t line with hsame | ⟨read, heard, text, hreacts, hheard, hline⟩
  · rw [hsame]
    exact h
  · have hflushed := (h.yields hreacts.yields).flush t
    rw [hline]
    rcases hheard with rfl | ⟨other, rfl⟩
    · exact hflushed.callPlugins t rfl rfl _ _
    · exact (hflushed.callPlugins t rfl rfl _ _).callPlugins t rfl rfl _ _

theorem Recounts.processLines (h : sc.Recounts) (fuel : Nat) :
    (sc.processLines t fuel).Recounts := by
  have hframe {sc : Scene} (h : sc.Recounts) (framer : Wire.Framer) :
      (sc.onSession ({ · with framer })).Recounts :=
    h.onSession fun _ hrecounts => hrecounts.still rfl rfl rfl
  induction fuel generalizing sc with
  | zero => exact h
  | succ fuel ih =>
      unfold Scene.processLines
      split
      · exact h
      · split
        · exact hframe h _
        · exact ih ((hframe h _).processLine t _)

theorem Recounts.processData (h : sc.Recounts) (data : Bytes) :
    (sc.processData t data).Recounts := by
  have hheard : (sc.onSession fun s =>
      { s with framer := s.framer.push data, lastReceived := t.now }).Recounts :=
    h.onSession fun _ hrecounts => hrecounts.still rfl rfl rfl
  exact (hheard.processLines t _).flush t

end Receiving

theorem withstands_recounts (t : Moment) : Withstands (fun _ => True) Recounts t where
  connect sc h hstage := h.onSession fun _ hrecounts => hrecounts.startConnect hstage
  poll sc dial h hstage := h.onSession fun _ hrecounts => hrecounts.pollConnect hstage t dial
  hear sc data h _ := h.processData t data
  lose sc fault h := h.speaks (.inr (sc.session.fail_parts t fault))
  timers sc h := h.speaks (sc.session.runTimers_cases t)
  drain sc out h := by
    rcases sc.session.drainOutbound_cases t out with ⟨hsame, -⟩ | hparts
    · refine h.onSession fun _ hrecounts => ?_
      rw [hsame]
      exact hrecounts.still rfl rfl rfl
    · exact h.speaks (.inr hparts)
  flush sc h := h.flush t
  act sc a h := h.speaks (sc.session.act_cases t a)
  ban sc id banner reason duration h :=
    h.yields (.inl (sc.serves_banPlayer t id banner reason duration))
  names sc nameOf h := h.onSession fun _ hrecounts => hrecounts.still rfl rfl rfl
  elsewhere sc bans ladder memory h :=
    h.of_session rfl rfl fun _ hrecounts => hrecounts.still rfl rfl rfl

/-- Connections are told of one after the other, each in the order of an episode, whatever comes
from the network or is done to the session, and whatever observers do about it. Events that
observers have yet to hear of stand in the queue. -/
theorem connections_are_told_of_in_episodes (host : Host) (settings : ServerSettings)
    (now : Instant) (calls : List (Moment × Call)) :
    let sc := (start host settings now).after calls
    ∃ (delivered : List Event) (whole : List (List EventKind)),
      sc.told.filter (·.notice.isEvent) = delivered.flatMap sc.host.callbacks ∧
      (∀ kinds ∈ whole, kinds ∈ episodes) ∧
      sessionKinds (delivered ++ sc.session.queue) <+: whole.flatten := by
  intro sc
  have hstart : (start host settings now).Recounts :=
    ⟨[], rfl, rfl, [], fun _ h => absurd h List.not_mem_nil, rfl⟩
  have hsc : sc.Recounts := Withstands.after (fun _ _ => trivial) withstands_recounts hstart
    (hears_any _ calls)
  obtain ⟨delivered, htold, hsocket, ended, hended, hkinds⟩ := hsc
  cases hopen : sc.session.stage.isOpen with
  | false =>
      rw [history_of_not_open hopen, List.append_nil] at hkinds
      exact ⟨delivered, ended, htold, hended, hkinds ▸ List.prefix_rfl⟩
  | true =>
      refine ⟨delivered, ended ++ [sc.session.stage.history ++ [.disconnected]], htold,
        forall_mem_episodes_append hended hopen, ?_⟩
      rw [hkinds, List.flatten_append, List.flatten_singleton, ← List.append_assoc]
      exact List.prefix_append _ _

end Scene

end RemoteConsole
