import RemoteConsole.Proofs.Session.Conduct

namespace RemoteConsole

open Session (Action)
open Wire (Line)

def Notice.tells : Notice → Bool
  | .event _ | .other _ | .raw _ => true
  | .asked .. | .acted .. => false

def Notice.isEvent : Notice → Bool
  | .event _ => true
  | _ => false

/-- All that observers and commands may answer to is answered in a way that is `ok`. -/
structure Host.Answers (ok : (Session → List Action) → Prop) (h : Host) : Prop where
  event : ∀ p ∈ h.observers.plugins, ∀ e, ok (p.onEvent · e)
  other : ∀ p ∈ h.observers.plugins, ∀ line, ok (p.onOther · line)
  raw : ∀ p ∈ h.observers.plugins, ∀ text, ok (p.onRaw · text)
  handler : ∀ r ∈ h.observers.handlers, ∀ e, ok (r.react · e)
  command : ∀ c ∈ h.router.commands, ∀ reference p params, ok (c.run reference · p params)

theorem Host.answers_any (h : Host) : h.Answers fun _ => True :=
  ⟨fun _ _ _ => trivial, fun _ _ _ => trivial, fun _ _ _ => trivial, fun _ _ _ => trivial,
    fun _ _ _ _ _ => trivial⟩

def Host.pluginCallbacks (h : Host) (notice : Notice) (wants : Plugin → Bool) : List Callback :=
  (h.observers.plugins.zipIdx.filter (wants ·.1)).map fun p => ⟨.plugin p.2, notice⟩

/-- How all observers that want to hear of an event are told of it: first the plugins, then those
who asked for its kind. -/
def Host.callbacks (h : Host) (e : Event) : List Callback :=
  h.pluginCallbacks (.event e) (·.wants e.kind) ++
    (h.observers.handlers.zipIdx.filter (·.1.kind == e.kind)).map fun r => ⟨.handler r.2, .event e⟩

theorem Host.notice_of_mem_pluginCallbacks {h : Host} {notice : Notice} {wants : Plugin → Bool}
    {c : Callback} (hc : c ∈ h.pluginCallbacks notice wants) : c.notice = notice := by
  obtain ⟨_, -, rfl⟩ := List.mem_map.1 hc
  rfl

theorem Host.isEvent_of_mem_callbacks {h : Host} {e : Event} {c : Callback}
    (hc : c ∈ h.callbacks e) : c.notice.isEvent := by
  rcases List.mem_append.1 hc with hc | hc
  · rw [Host.notice_of_mem_pluginCallbacks hc]
    rfl
  · obtain ⟨_, -, rfl⟩ := List.mem_map.1 hc
    rfl

theorem Host.tells_callbacks (h : Host) (e : Event) :
    (h.callbacks e).filter (·.notice.tells) = h.callbacks e := by
  refine List.filter_eq_self.2 fun c hc => ?_
  have hevent := Host.isEvent_of_mem_callbacks hc
  cases hnotice : c.notice <;> simp_all [Notice.isEvent, Notice.tells]

namespace Host

def askedBy? (h : Host) (p : Match.Player) (message : String) :
    Option (Chat.Command × Nat × Match.Player × String) :=
  if h.mark.isEmpty || p.isBanned .bot then none
  else
    (Text.after? h.mark message).bind fun text =>
      (h.router.route? text).map fun (c, i, params) => (c, i, p, params)

def asked? (h : Host) : Event → Option (Chat.Command × Nat × Match.Player × String)
  | .chat p message | .teamChat p message => h.askedBy? p message
  | _ => none

def commandCallbacks (h : Host) (e : Event) : List Callback :=
  (h.asked? e).toList.map fun (_, i, p, params) => ⟨.command i, .asked p params⟩

theorem tells_commandCallbacks (h : Host) (e : Event) :
    (h.commandCallbacks e).filter (·.notice.tells) = [] := by
  rw [commandCallbacks]
  cases h.asked? e <;> rfl

theorem mem_of_asked? {h : Host} {e : Event} {c : Chat.Command} {i : Nat} {p : Match.Player}
    {params : String} (hasked : h.asked? e = some (c, i, p, params)) : c ∈ h.router.commands := by
  have hroute {text : String} {found : Chat.Command × Nat × String}
      (h' : h.router.route? text = some found) : found.1 ∈ h.router.commands := by
    unfold Chat.Router.route? at h'
    dsimp only at h'
    split at h'
    · cases h'
    · obtain ⟨⟨c', i'⟩, hfind, rfl⟩ := Option.map_eq_some_iff.1 h'
      obtain ⟨place, -, hplace⟩ := Option.bind_eq_some_iff.1 hfind
      obtain ⟨c', hplace, heq⟩ := Option.map_eq_some_iff.1 hplace
      cases heq
      exact List.mem_of_getElem? hplace
  have hmessage {author : Match.Player} {message : String}
      (h' : h.askedBy? author message = some (c, i, p, params)) : c ∈ h.router.commands := by
    unfold askedBy? at h'
    split at h'
    · cases h'
    · obtain ⟨text, -, hmap⟩ := Option.bind_eq_some_iff.1 h'
      obtain ⟨found, hfound, heq⟩ := Option.map_eq_some_iff.1 hmap
      cases heq
      exact hroute hfound
  cases e with
  | chat | teamChat => exact hmessage hasked
  | _ => cases hasked

end Host

namespace Scene

/-- The callbacks of some sorts, in order. -/
def noted (picks : Notice → Bool) (sc : Scene) : List Callback :=
  sc.journal.toList.filter (picks ·.notice)

/-- What observers have been told so far, each callback with the observer it went to. -/
def told (sc : Scene) : List Callback :=
  sc.journal.toList.filter (·.notice.tells)

variable (t : Moment) (sc : Scene)

section Calls

theorem foldl_same {α β : Type} {f : Scene → β} {g : Scene → α → Scene}
    (hg : ∀ sc a, f (g sc a) = f sc) (as : List α) : f (as.foldl g sc) = f sc := by
  induction as generalizing sc with
  | nil => rfl
  | cons a as ih => rw [List.foldl_cons, ih, hg]

theorem noted_record (picks : Notice → Bool) (callee : Callee) (notice : Notice) :
    (sc.record callee notice).noted picks =
      sc.noted picks ++ [⟨callee, notice⟩].filter (picks ·.notice) := by
  simp [record, noted]

theorem host_call (callee : Callee) (notice : Notice) (answer : Session → List Action) :
    (sc.call t callee notice answer).host = sc.host :=
  foldl_same (f := Scene.host) (g := act t callee) _ (fun _ _ => rfl) _

section Noted

variable (picks : Notice → Bool) (hacts : ∀ a r, picks (.acted a r) = false)

include hacts

theorem noted_call (callee : Callee) (notice : Notice) (answer : Session → List Action) :
    (sc.call t callee notice answer).noted picks =
      sc.noted picks ++ [⟨callee, notice⟩].filter (picks ·.notice) := by
  have hact (sc : Scene) (a : Action) : (sc.act t callee a).noted picks = sc.noted picks := by
    simp only [act, noted_record, List.filter_cons, hacts]
    exact List.append_nil _
  rw [call, foldl_same (f := noted picks) _ hact, noted_record]

theorem noted_foldl_call {α : Type} (notice : Notice) (wants : α → Bool) (callee : α → Callee)
    (answer : α → Session → List Action) (as : List α) :
    (as.foldl (fun sc a => if wants a then sc.call t (callee a) notice (answer a) else sc)
      sc).noted picks = sc.noted picks ++
        ((as.filter wants).map fun a => ⟨callee a, notice⟩).filter fun c : Callback =>
          picks c.notice := by
  induction as generalizing sc with
  | nil => simp
  | cons a as ih =>
      rw [List.foldl_cons, ih]
      by_cases ha : wants a
      · rw [if_pos ha, noted_call t sc picks hacts, List.filter_cons_of_pos ha, List.map_cons,
          List.append_assoc, ← List.filter_append, List.singleton_append]
      · rw [if_neg ha, List.filter_cons_of_neg ha]

end Noted

theorem told_call (callee : Callee) (notice : Notice) (answer : Session → List Action) :
    (sc.call t callee notice answer).told =
      sc.told ++ [⟨callee, notice⟩].filter (·.notice.tells) :=
  sc.noted_call t Notice.tells (fun _ _ => rfl) callee notice answer

theorem host_foldl_call {α : Type} (notice : Notice) (picks : α → Bool) (callee : α → Callee)
    (answer : α → Session → List Action) (as : List α) :
    (as.foldl (fun sc a => if picks a then sc.call t (callee a) notice (answer a) else sc)
      sc).host = sc.host := by
  refine foldl_same (f := Scene.host) sc (fun sc a => ?_) as
  split
  · exact sc.host_call t _ _ _
  · rfl

theorem noted_callPlugins (picks : Notice → Bool) (hacts : ∀ a r, picks (.acted a r) = false)
    (notice : Notice) (wants : Plugin → Bool) (answer : Plugin → Session → List Action) :
    (sc.callPlugins t notice wants answer).noted picks =
      sc.noted picks ++ (sc.host.pluginCallbacks notice wants).filter (picks ·.notice) :=
  sc.noted_foldl_call t picks hacts notice (fun p : Plugin × Nat => wants p.1)
    (fun p => .plugin p.2) (fun p => answer p.1) _

theorem told_callPlugins (notice : Notice) (htells : notice.tells) (wants : Plugin → Bool)
    (answer : Plugin → Session → List Action) :
    (sc.callPlugins t notice wants answer).told =
      sc.told ++ sc.host.pluginCallbacks notice wants := by
  have hall : (sc.host.pluginCallbacks notice wants).filter (·.notice.tells) =
      sc.host.pluginCallbacks notice wants :=
    List.filter_eq_self.2 fun c hc => by rwa [Host.notice_of_mem_pluginCallbacks hc]
  exact (sc.noted_callPlugins t Notice.tells (fun _ _ => rfl) notice wants answer).trans
    (congrArg _ hall)

theorem host_callPlugins (notice : Notice) (wants : Plugin → Bool)
    (answer : Plugin → Session → List Action) :
    (sc.callPlugins t notice wants answer).host = sc.host :=
  sc.host_foldl_call t notice (fun p : Plugin × Nat => wants p.1) (fun p => .plugin p.2)
    (fun p => answer p.1) _

theorem noted_deliver (picks : Notice → Bool) (hacts : ∀ a r, picks (.acted a r) = false)
    (e : Event) : (sc.deliver t e).noted picks =
      sc.noted picks ++ (sc.host.callbacks e).filter (picks ·.notice) := by
  have hhandlers (sc : Scene) : (sc.callHandlers t e).noted picks =
      sc.noted picks ++ ((sc.host.observers.handlers.zipIdx.filter (·.1.kind == e.kind)).map
        fun r => (⟨.handler r.2, .event e⟩ : Callback)).filter (picks ·.notice) :=
    sc.noted_foldl_call t picks hacts (.event e) (fun r : Handler × Nat => r.1.kind == e.kind)
      (fun r => .handler r.2) (fun r => (r.1.react · e)) _
  rw [deliver, hhandlers, noted_callPlugins t sc picks hacts, host_callPlugins, List.append_assoc,
    ← List.filter_append]
  rfl

theorem told_deliver (e : Event) : (sc.deliver t e).told = sc.told ++ sc.host.callbacks e := by
  refine (sc.noted_deliver t Notice.tells (fun _ _ => rfl) e).trans ?_
  rw [Host.tells_callbacks]
  rfl

theorem host_deliver (e : Event) : (sc.deliver t e).host = sc.host := by
  have hhandlers (sc : Scene) : (sc.callHandlers t e).host = sc.host :=
    sc.host_foldl_call t (.event e) (fun r : Handler × Nat => r.1.kind == e.kind)
      (fun r => .handler r.2) (fun r => (r.1.react · e)) _
  rw [deliver, hhandlers, host_callPlugins]

theorem routeChat_eq (e : Event) : sc.routeChat t e =
    match sc.host.asked? e with
    | none => sc
    | some (c, i, p, params) =>
      sc.call t (.command i) (.asked p params) (c.run sc.host.reference · p params) := by
  have hmessage (p : Match.Player) (message : String) : sc.routeMessage t p message =
      match sc.host.askedBy? p message with
      | none => sc
      | some (c, i, p, params) =>
        sc.call t (.command i) (.asked p params) (c.run sc.host.reference · p params) := by
    unfold routeMessage Host.askedBy?
    split
    · rfl
    · cases Text.after? sc.host.mark message with
      | none => rfl
      | some text =>
          unfold route
          dsimp only [Option.bind_some]
          cases sc.host.router.route? text with
          | none => rfl
          | some found => rfl
  cases e with
  | chat p message | teamChat p message => exact hmessage p message
  | _ => rfl

theorem noted_routeChat (picks : Notice → Bool) (hacts : ∀ a r, picks (.acted a r) = false)
    (e : Event) : (sc.routeChat t e).noted picks =
      sc.noted picks ++ (sc.host.commandCallbacks e).filter (picks ·.notice) := by
  rw [routeChat_eq, Host.commandCallbacks]
  cases sc.host.asked? e with
  | none => exact (List.append_nil _).symm
  | some asked => exact sc.noted_call t picks hacts _ _ _

theorem told_routeChat (e : Event) : (sc.routeChat t e).told = sc.told := by
  refine (sc.noted_routeChat t Notice.tells (fun _ _ => rfl) e).trans ?_
  rw [Host.tells_commandCallbacks, List.append_nil]
  rfl

theorem host_routeChat (e : Event) : (sc.routeChat t e).host = sc.host := by
  rw [routeChat_eq]
  split
  · rfl
  · exact sc.host_call t _ _ _

theorem host_flushFrom (fuel : Nat) : (sc.flushFrom t fuel).host = sc.host := by
  induction fuel generalizing sc with
  | zero => rfl
  | succ fuel ih =>
      unfold flushFrom
      split
      · rfl
      · rw [ih, host_routeChat, host_deliver]
        rfl

theorem host_flush : (sc.flush t).host = sc.host :=
  sc.host_flushFrom t _

end Calls

section Keeping

variable {t sc}
variable {ok : (Session → List Action) → Prop} {P : Session → Prop}

theorem any_answer_keeps (hacts : ∀ s a, P s → P (s.act t a).2) (answer : Session → List Action)
    (_ : True) (seen : Session) (a : Action) (_ : a ∈ answer seen) (s : Session) (h : P s) :
    P (s.act t a).2 :=
  hacts s a h

variable (hact : ∀ answer, ok answer → ∀ seen, ∀ a ∈ answer seen, ∀ s, P s → P (s.act t a).2)

include hact

theorem call_keeps {callee : Callee} {notice : Notice} {answer : Session → List Action}
    (hanswer : ok answer) (h : P sc.session) : P (sc.call t callee notice answer).session :=
  List.foldlRecOn (motive := fun after : Scene => P after.session) (answer sc.session)
    (act t callee) h fun after hafter a ha =>
      hact answer hanswer sc.session a ha after.session hafter

theorem foldl_call_keeps {α : Type} (notice : Notice) (picks : α → Bool) (callee : α → Callee)
    (answer : α → Session → List Action) {as : List α} (hanswers : ∀ a ∈ as, ok (answer a))
    (h : P sc.session) :
    P (as.foldl (fun sc a => if picks a then sc.call t (callee a) notice (answer a) else sc)
      sc).session := by
  refine List.foldlRecOn (motive := fun after : Scene => P after.session) as _ h ?_
  intro after hafter a ha
  split
  · exact call_keeps hact (hanswers a ha) hafter
  · exact hafter

theorem callPlugins_keeps (notice : Notice) (wants : Plugin → Bool)
    {answer : Plugin → Session → List Action}
    (hanswers : ∀ p ∈ sc.host.observers.plugins, ok (answer p)) (h : P sc.session) :
    P (sc.callPlugins t notice wants answer).session :=
  foldl_call_keeps hact notice (fun p : Plugin × Nat => wants p.1) (fun p => .plugin p.2)
    (fun p => answer p.1) (fun p hp => hanswers p.1 (List.fst_mem_of_mem_zipIdx hp)) h

variable (hhost : sc.host.Answers ok)

include hhost

theorem deliver_keeps (e : Event) (h : P sc.session) : P (sc.deliver t e).session := by
  have hplugins := callPlugins_keeps hact (.event e) (·.wants e.kind)
    (fun p hp => hhost.event p hp e) h
  refine foldl_call_keeps hact (.event e) (fun r : Handler × Nat => r.1.kind == e.kind)
    (fun r => .handler r.2) (fun r => (r.1.react · e)) ?_ hplugins
  intro r hr
  rw [host_callPlugins] at hr
  exact hhost.handler r.1 (List.fst_mem_of_mem_zipIdx hr) e

theorem deliverOther_keeps (line : Line) (h : P sc.session) : P (sc.deliverOther t line).session :=
  callPlugins_keeps hact _ _ (fun p hp => hhost.other p hp line) h

theorem deliverRaw_keeps (text : String) (h : P sc.session) : P (sc.deliverRaw t text).session :=
  callPlugins_keeps hact _ _ (fun p hp => hhost.raw p hp text) h

theorem routeChat_keeps (e : Event) (h : P sc.session) : P (sc.routeChat t e).session := by
  rw [routeChat_eq]
  split
  · exact h
  · rename_i hasked
    exact call_keeps hact (hhost.command _ (Host.mem_of_asked? hasked) _ _ _) h

theorem flush_keeps (htake : ∀ s : Session, ∀ e queue, s.queue = e :: queue → P s →
    P { s with queue }) (h : P sc.session) : P (sc.flush t).session := by
  suffices hfrom : ∀ fuel, P (sc.flushFrom t fuel).session from hfrom _
  intro fuel
  induction fuel generalizing sc with
  | zero => exact h
  | succ fuel ih =>
      unfold flushFrom
      split
      · exact h
      · rename_i e queue hqueue
        have htaken := htake sc.session e queue hqueue h
        generalize hfirst : sc.onSession ({ · with queue }) = first
        have hanswers : first.host.Answers ok := hfirst ▸ hhost
        have hdelivered := deliver_keeps hact hanswers e (hfirst ▸ htaken)
        have hsame : (first.deliver t e).host = first.host := first.host_deliver t e
        refine ih ?_ (routeChat_keeps hact (hsame ▸ hanswers) e hdelivered)
        rw [host_routeChat, hsame]
        exact hanswers

end Keeping

end Scene

end RemoteConsole
