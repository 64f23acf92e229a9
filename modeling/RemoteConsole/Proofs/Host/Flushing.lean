import RemoteConsole.Proofs.Host.Lagging

namespace RemoteConsole

open Session (Action Speaks Parts)
open Wire (Line Bytes)

/-- Leaves the connection open, and sees nothing of what has been read of the next line. -/
structure Gentle (answer : Session → List Action) : Prop where
  stays : ∀ s, ∀ a ∈ answer s, a.closes = false
  blind : ∀ s framer lastReceived, answer { s with framer, lastReceived } = answer s

namespace Session

def Rests (s : Session) : Prop :=
  s.queue = [] ∨ s.socket = false

theorem Rests.act {s : Session} (h : s.Rests) (t : Moment) (a : Action) : (s.act t a).2.Rests := by
  rcases s.act_cases t a with hspeaks | hparts
  · rw [hspeaks.same]
    exact h
  · obtain ⟨reason, hsame⟩ := hparts.same
    rw [hsame]
    exact .inr rfl

theorem Speaks.onQueue {s after : Session} (h : s.Speaks after) (queue : List Event) :
    Speaks { s with queue } { after with queue } := by
  refine ⟨by rw [h.same], fun hsocket => ?_⟩
  rw [h.silent hsocket]

/-- The events that wait, and the one more that there is when the connection is dropped. -/
def backlog (s : Session) : Nat :=
  s.queue.length + if s.socket then 1 else 0

theorem backlog_act_le (s : Session) (t : Moment) (a : Action) :
    (s.act t a).2.backlog ≤ s.backlog := by
  rcases s.act_cases t a with hspeaks | hparts
  · rw [hspeaks.same]
    exact Nat.le_refl _
  · obtain ⟨reason, hsame⟩ := hparts.same
    rw [hsame]
    cases hsocket : s.socket <;> simp [backlog, close, hsocket]

theorem Lags.eq_of_online {s ahead : Session} (h : s.Lags [] ahead) (hsocket : s.socket = true) :
    ahead = { s with framer := ahead.framer, lastReceived := ahead.lastReceived } := by
  obtain ⟨-, hat, hempty, hmemory⟩ := h.online hsocket
  have hqueue : ahead.queue = s.queue := h.queue.symm
  have hsame := h.same
  rw [hqueue, hat, hempty, hmemory] at hsame
  exact hsame

end Session

namespace Scene

variable (t : Moment)

section Any

variable (sc : Scene)

theorem rests_flush : (sc.flush t).session.queue = [] := by
  have hfrom (fuel : Nat) (sc : Scene) (hfuel : sc.session.backlog ≤ fuel) :
      (sc.flushFrom t fuel).session.queue = [] := by
    induction fuel generalizing sc with
    | zero =>
        rw [flushFrom]
        have : sc.session.queue.length = 0 := by
          rw [Session.backlog] at hfuel
          omega
        exact List.eq_nil_of_length_eq_zero this
    | succ fuel ih =>
        unfold flushFrom
        split
        · rename_i hnone
          exact hnone
        · rename_i e queue hqueue
          refine ih _ ?_
          have hact := any_answer_keeps (t := t) (P := (·.backlog ≤ fuel))
            fun s a hs => Nat.le_trans (s.backlog_act_le t a) hs
          have htaken : (sc.onSession ({ · with queue })).session.backlog ≤ fuel := by
            rw [Session.backlog, hqueue, List.length_cons] at hfuel
            change queue.length + (if sc.session.socket then 1 else 0) ≤ fuel
            omega
          have hdelivered := deliver_keeps hact (Host.answers_any _) e htaken
          exact routeChat_keeps hact (Host.answers_any _) e hdelivered
  refine hfrom _ sc ?_
  rw [Session.backlog]
  split <;> omega

end Any

section Gentle

variable {t} {sc ahead : Scene}

theorem gentle_speaks (before : Session) (answer : Session → List Action) (h : Gentle answer)
    (seen : Session) (a : Action) (ha : a ∈ answer seen) (s : Session) (hs : before.Speaks s) :
    before.Speaks (s.act t a).2 :=
  hs.trans (s.act_speaks (h.stays seen a ha) t)

theorem call_speaks {answer : Session → List Action} (h : Gentle answer) (callee : Callee)
    (notice : Notice) : sc.session.Speaks (sc.call t callee notice answer).session :=
  call_keeps (gentle_speaks sc.session) h (.refl _)

theorem deliver_speaks (hhost : sc.host.Answers Gentle) (e : Event) :
    sc.session.Speaks ((sc.deliver t e).routeChat t e).session := by
  have hdelivered := deliver_keeps (gentle_speaks (t := t) sc.session) hhost e (.refl _)
  exact routeChat_keeps (gentle_speaks sc.session) ((sc.host_deliver t e).symm ▸ hhost) e hdelivered

theorem flush_offline (hhost : sc.host.Answers Gentle) (hsocket : sc.session.socket = false) :
    (sc.flush t).told = sc.told ++ sc.session.queue.flatMap sc.host.callbacks ∧
      Speaks { sc.session with queue := [] } (sc.flush t).session := by
  rw [flush]
  generalize hqueue : sc.session.queue = queue
  induction queue generalizing sc with
  | nil =>
      have hsame : ({ sc.session with queue := [] } : Session) = sc.session := by rw [← hqueue]
      rw [List.length_nil, flushFrom, hqueue, hsame]
      exact ⟨(List.append_nil _).symm, .refl _⟩
  | cons e queue ih =>
      rw [List.length_cons, flushFrom, hqueue]
      dsimp only
      generalize htaken : sc.onSession ({ · with queue }) = taken
      have hhosts : taken.host = sc.host := by rw [← htaken]; rfl
      have hspeaks := deliver_speaks (t := t) (hhosts ▸ hhost) e
      have hsession : Speaks { sc.session with queue }
          ((taken.deliver t e).routeChat t e).session := by
        rw [← htaken] at hspeaks ⊢
        exact hspeaks
      have htold : ((taken.deliver t e).routeChat t e).told = sc.told ++ sc.host.callbacks e := by
        rw [told_routeChat, told_deliver, hhosts, ← htaken]
        rfl
      have hhosted : ((taken.deliver t e).routeChat t e).host = sc.host := by
        rw [host_routeChat, host_deliver, hhosts]
      generalize (taken.deliver t e).routeChat t e = first at hsession htold hhosted
      have hwaits : first.session.queue = queue := by rw [hsession.same]
      have hstill : first.session.socket = false := by
        rw [hsession.same]
        exact hsocket
      obtain ⟨hrest, hends⟩ := ih (hhosted ▸ hhost) hstill hwaits
      refine ⟨?_, (hsession.onQueue []).trans hends⟩
      rw [hrest, htold, hhosted, List.flatMap_cons, List.append_assoc]

namespace Lags

theorem call (h : Lags [] sc ahead) {answer : Session → List Action} (hanswer : Gentle answer)
    (callee : Callee) (notice : Notice) :
    Lags [] (sc.call t callee notice answer) (ahead.call t callee notice answer) where
  host := by rw [host_call, host_call, h.host]
  told := by rw [told_call, told_call, h.told, List.flatMap_nil, List.append_nil, List.flatMap_nil,
    List.append_nil]
  session := by
    cases hsocket : sc.session.socket with
    | false => exact h.session.speaks hsocket (call_speaks hanswer _ _) (call_speaks hanswer _ _)
    | true =>
        have hsees : answer ahead.session = answer sc.session := by
          rw [h.session.eq_of_online hsocket]
          exact hanswer.blind _ _ _
        have hacts (as : List Action) (has : ∀ a ∈ as, a.closes = false) (sc ahead : Scene)
            (h : sc.session.Lags [] ahead.session) :
            (as.foldl (Scene.act t callee) sc).session.Lags []
              (as.foldl (Scene.act t callee) ahead).session := by
          induction as generalizing sc ahead with
          | nil => exact h
          | cons a as ih =>
              refine ih (fun b hb => has b (List.mem_cons_of_mem a hb)) _ _ ?_
              exact h.act (has a List.mem_cons_self) t
        unfold Scene.call
        rw [hsees]
        exact hacts _ (hanswer.stays sc.session) _ _ h.session

theorem foldl_call {α : Type} (notice : Notice) (picks : α → Bool) (callee : α → Callee)
    (answer : α → Session → List Action) {as : List α} (hanswers : ∀ a ∈ as, Gentle (answer a))
    (h : Lags [] sc ahead) :
    Lags []
      (as.foldl (fun sc a => if picks a then sc.call t (callee a) notice (answer a) else sc) sc)
      (as.foldl (fun sc a => if picks a then sc.call t (callee a) notice (answer a) else sc)
        ahead) := by
  induction as generalizing sc ahead with
  | nil => exact h
  | cons a as ih =>
      refine ih (fun b hb => hanswers b (List.mem_cons_of_mem a hb)) ?_
      dsimp only
      split
      · exact h.call (hanswers a List.mem_cons_self) _ _
      · exact h

theorem callPlugins (h : Lags [] sc ahead) (notice : Notice) (wants : Plugin → Bool)
    {answer : Plugin → Session → List Action}
    (hanswers : ∀ p ∈ sc.host.observers.plugins, Gentle (answer p)) :
    Lags [] (sc.callPlugins t notice wants answer) (ahead.callPlugins t notice wants answer) := by
  unfold Scene.callPlugins
  rw [h.host]
  exact foldl_call notice (fun p : Plugin × Nat => wants p.1) (fun p => .plugin p.2)
    (fun p => answer p.1) (fun p hp => hanswers p.1 (List.fst_mem_of_mem_zipIdx hp)) h

variable (hhost : sc.host.Answers Gentle)

include hhost

theorem deliver (h : Lags [] sc ahead) (e : Event) :
    Lags [] (sc.deliver t e) (ahead.deliver t e) := by
  have hplugins := h.callPlugins (t := t) (.event e) (·.wants e.kind) fun p hp => hhost.event p hp e
  unfold Scene.deliver Scene.callHandlers
  rw [hplugins.host, host_callPlugins]
  exact foldl_call (.event e) (fun r : Handler × Nat => r.1.kind == e.kind) (fun r => .handler r.2)
    (fun r => (r.1.react · e)) (fun r hr => hhost.handler r.1 (List.fst_mem_of_mem_zipIdx hr) e)
    hplugins

theorem routeChat (h : Lags [] sc ahead) (e : Event) :
    Lags [] (sc.routeChat t e) (ahead.routeChat t e) := by
  rw [routeChat_eq, routeChat_eq, h.host]
  split
  · exact h
  · rename_i hasked
    exact h.call (hhost.command _ (Host.mem_of_asked? hasked) _ _ _) _ _

theorem flushFrom (h : Lags [] sc ahead) (fuel : Nat) :
    Lags [] (sc.flushFrom t fuel) (ahead.flushFrom t fuel) := by
  induction fuel generalizing sc ahead with
  | zero => exact h
  | succ fuel ih =>
      have hqueue : ahead.session.queue = sc.session.queue := h.session.queue.symm
      unfold Scene.flushFrom
      rw [hqueue]
      split
      · exact h
      · rename_i e queue _
        have htaken : Lags [] (sc.onSession ({ · with queue }))
            (ahead.onSession ({ · with queue })) := by
          refine h.onSession ⟨?_, rfl, h.session.online⟩
          rw [h.session.same]
        generalize hfirst : sc.onSession ({ · with queue }) = first at htaken
        have hanswers : first.host.Answers Gentle := hfirst ▸ hhost
        have hsame : (first.deliver t e).host = first.host := first.host_deliver t e
        refine ih ?_ ((htaken.deliver hanswers e).routeChat (hsame ▸ hanswers) e)
        rw [host_routeChat, hsame]
        exact hanswers

/-- Telling of all that waits makes up for a lag. -/
theorem flush {pending : List Event} (h : Lags pending sc ahead) :
    Lags [] (sc.flush t) (ahead.flush t) := by
  cases hsocket : sc.session.socket with
  | true =>
      obtain ⟨rfl, -⟩ := h.session.online hsocket
      have hqueue : ahead.session.queue = sc.session.queue := h.session.queue.symm
      rw [Scene.flush, Scene.flush, hqueue]
      exact h.flushFrom hhost _
  | false =>
      have hahead : ahead.session.socket = false := h.session.socket.trans hsocket
      obtain ⟨htold, hends⟩ := flush_offline (t := t) hhost hsocket
      obtain ⟨htold', hends'⟩ := flush_offline (t := t) (h.host ▸ hhost) hahead
      have hemptied : Session.Lags [] { sc.session with queue := [] }
          { ahead.session with queue := [] } := by
        refine ⟨by rw [h.session.same], rfl, fun hopen => ?_⟩
        exact absurd (hsocket.symm.trans hopen) (by decide)
      refine ⟨by rw [host_flush, host_flush, h.host], hemptied.speaks hsocket hends hends', ?_⟩
      rw [htold', h.told, htold, h.host, h.session.queue, List.flatMap_append, List.flatMap_nil,
        List.append_nil, List.append_assoc]

end Lags

end Gentle

end Scene

end RemoteConsole
