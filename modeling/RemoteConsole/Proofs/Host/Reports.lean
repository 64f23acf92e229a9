import RemoteConsole.Proofs.Host.Calls
import RemoteConsole.Proofs.Host.Tidings
import RemoteConsole.Proofs.Wire.Framing

namespace RemoteConsole

open Session (Action)
open Wire (Line Bytes Framer)

def Session.Action.parting? : Action → Option String
  | .disconnect reason | .terminate reason => some reason
  | _ => none

def Notice.parting? : Notice → Option String
  | .acted a _ => a.parting?
  | _ => none

namespace Session

/-- What has become of a session for whose connection these reasons to drop it were given. -/
structure Left (reasons : List String) (s after : Session) : Prop where
  socket : after.socket = (s.socket && reasons.isEmpty)
  framer : after.framer = if reasons.isEmpty then s.framer else s.framer.clear
  terminated : reasons = [] → after.terminated = s.terminated

section Left

variable {reasons more : List String} {s between after : Session}

theorem Left.refl (s : Session) : Left [] s s :=
  ⟨by simp, rfl, fun _ => rfl⟩

theorem Left.trans (h : Left reasons s between) (h' : Left more between after) :
    Left (reasons ++ more) s after where
  socket := by
    rw [h'.socket, h.socket]
    cases reasons <;> simp
  framer := by
    rw [h'.framer, h.framer]
    cases reasons <;> cases more <;> rfl
  terminated hnone := by
    obtain ⟨hreasons, hmore⟩ := List.append_eq_nil_iff.1 hnone
    rw [h'.terminated hmore, h.terminated hreasons]

theorem Left.farewell (h : Left reasons s between) (more : List String) :
    s.farewell (reasons ++ more) = s.farewell reasons ++ between.farewell more := by
  unfold Session.farewell
  rw [h.socket]
  cases s.socket <;> cases reasons <;> simp

theorem Left.backlog (h : Left reasons s after) {queue : List Event}
    (hqueue : after.queue = queue ++ s.farewell reasons) :
    after.backlog = queue.length + if s.socket then 1 else 0 := by
  rw [Session.backlog, hqueue, h.socket, Session.farewell]
  cases s.socket <;> cases reasons <;> simp

end Left

variable (s : Session) (t : Moment)

theorem left_act (a : Action) : Left a.parting?.toList s (s.act t a).2 ∧
    (s.act t a).2.queue = s.queue ++ s.farewell a.parting?.toList := by
  have hspeaks {after : Session} (h : s.Speaks after) :
      Left [] s after ∧ after.queue = s.queue ++ s.farewell [] := by
    refine ⟨⟨?_, ?_, fun _ => ?_⟩, ?_⟩
    · simpa using h.advances.socket
    · exact h.advances.framer
    · exact h.advances.terminated
    · simp [h.queue, farewell]
  cases a with
  | disconnect reason =>
      change Left [reason] s (s.disconnect t reason) ∧
        (s.disconnect t reason).queue = s.queue ++ s.farewell [reason]
      unfold disconnect retry
      dsimp only
      split <;> refine ⟨⟨by simp [terminate, close], rfl, fun hnone => ?_⟩, ?_⟩
      · exact absurd hnone (List.cons_ne_nil _ _)
      · cases hsocket : s.socket <;> simp [terminate, close, farewell, hsocket]
      · exact absurd hnone (List.cons_ne_nil _ _)
      · cases hsocket : s.socket <;> simp [close, farewell, hsocket]
  | terminate reason =>
      refine ⟨⟨by simp [act, terminate, close, Action.parting?], rfl, fun hnone => ?_⟩,
        s.queue_terminate reason⟩
      exact absurd hnone (List.cons_ne_nil _ _)
  | _ => exact hspeaks (s.act_speaks rfl t)

end Session

namespace Scene

/-- The reasons that observers and commands have given so far to drop the connection. -/
def partings (sc : Scene) : List String :=
  sc.journal.toList.filterMap (·.notice.parting?)

structure Parted (reasons : List String) (sc after : Scene) : Prop where
  partings : after.partings = sc.partings ++ reasons
  session : Session.Left reasons sc.session after.session

theorem Parted.trans {reasons more : List String} {sc between after : Scene}
    (h : Parted reasons sc between) (h' : Parted more between after) :
    Parted (reasons ++ more) sc after where
  partings := by rw [h'.partings, h.partings, List.append_assoc]
  session := h.session.trans h'.session

def Answered (calm : Prop) (sc after : Scene) : Prop :=
  ∃ reasons, (calm → reasons = []) ∧ Parted reasons sc after ∧
    after.session.queue = sc.session.queue ++ sc.session.farewell reasons

section Answered

variable {calm : Prop} {sc between after : Scene} (t : Moment)

theorem Answered.of_session (hsession : after.session = sc.session)
    (hpartings : after.partings = sc.partings) : Answered calm sc after := by
  refine ⟨[], fun _ => rfl, ⟨by simp [hpartings], hsession ▸ .refl _⟩, ?_⟩
  rw [hsession]
  simp [Session.farewell]

theorem Answered.trans (h : Answered calm sc between) (h' : Answered calm between after) :
    Answered calm sc after := by
  obtain ⟨reasons, hcalm, hparted, hqueue⟩ := h
  obtain ⟨more, hcalm', hparted', hqueue'⟩ := h'
  refine ⟨reasons ++ more, fun h => by rw [hcalm h, hcalm' h]; rfl, hparted.trans hparted', ?_⟩
  rw [hqueue', hqueue, hparted.session.farewell, List.append_assoc]

theorem answered_foldl {α : Type} {g : Scene → α → Scene} {as : List α}
    (hg : ∀ sc, ∀ a ∈ as, Answered calm sc (g sc a)) (sc : Scene) :
    Answered calm sc (as.foldl g sc) :=
  List.foldlRecOn (motive := Answered calm sc) as g (.of_session rfl rfl)
    fun _ hafter a ha => hafter.trans (hg _ a ha)

theorem partings_record (callee : Callee) (notice : Notice) (sc : Scene) :
    (sc.record callee notice).partings = sc.partings ++ notice.parting?.toList := by
  simp only [partings, record, Array.toList_push, List.filterMap_append]
  cases h : notice.parting? <;> simp [h]

theorem answered_act (callee : Callee) (sc : Scene) {a : Action}
    (ha : calm → a.closes = false) : Answered calm sc (sc.act t callee a) := by
  obtain ⟨hleft, hqueue⟩ := sc.session.left_act t a
  refine ⟨a.parting?.toList, fun hcalm => ?_, ⟨partings_record callee _ _, hleft⟩, hqueue⟩
  have hopen := ha hcalm
  cases a <;> first | rfl | cases hopen

theorem answered_call (callee : Callee) {notice : Notice} (hnotice : notice.parting? = none)
    {answer : Session → List Action} (hanswer : calm → ∀ s, ∀ a ∈ answer s, a.closes = false)
    (sc : Scene) : Answered calm sc (sc.call t callee notice answer) := by
  have hrecorded : Answered calm sc (sc.record callee notice) :=
    .of_session rfl (by rw [partings_record, hnotice]; exact List.append_nil _)
  exact hrecorded.trans (answered_foldl (fun sc a ha =>
    sc.answered_act t callee fun hcalm => hanswer hcalm _ a ha) _)

theorem answered_callPlugins {notice : Notice} (hnotice : notice.parting? = none)
    (wants : Plugin → Bool) {answer : Plugin → Session → List Action} (sc : Scene)
    (hanswers : calm → ∀ p ∈ sc.host.observers.plugins, ∀ s, ∀ a ∈ answer p s, a.closes = false) :
    Answered calm sc (sc.callPlugins t notice wants answer) := by
  refine answered_foldl (fun sc ⟨p, i⟩ hp => ?_) sc
  dsimp only
  split
  · exact answered_call t _ hnotice (fun hcalm =>
      hanswers hcalm p (List.fst_mem_of_mem_zipIdx hp)) sc
  · exact .of_session rfl rfl

theorem answered_deliver (e : Event) (sc : Scene) : Answered False sc (sc.deliver t e) := by
  refine (answered_callPlugins t rfl _ sc False.elim).trans
    (answered_foldl (fun sc ⟨r, i⟩ _ => ?_) _)
  dsimp only
  split
  · exact answered_call t _ rfl False.elim sc
  · exact .of_session rfl rfl

theorem answered_routeChat (e : Event) (sc : Scene) : Answered False sc (sc.routeChat t e) := by
  rw [routeChat_eq]
  split
  · exact .of_session rfl rfl
  · exact answered_call t _ rfl False.elim sc

end Answered

variable (t : Moment) (sc : Scene)

theorem noted_next (picks : Notice → Bool) (hacts : ∀ a r, picks (.acted a r) = false) (e : Event)
    (queue : List Event) {heard : Scene}
    (hheard : ((sc.onSession ({ · with queue })).deliver t e).routeChat t e = heard) :
    ∃ reasons, Parted reasons sc heard ∧
      heard.session.queue = queue ++ sc.session.farewell reasons ∧
      heard.noted picks = sc.noted picks ++
        (sc.host.callbacks e ++ sc.host.commandCallbacks e).filter (picks ·.notice) ∧
      heard.host = sc.host := by
  obtain ⟨reasons, -, hparted, hwaits⟩ : Answered False (sc.onSession ({ · with queue })) heard :=
    hheard ▸ (answered_deliver t e _).trans (answered_routeChat t e _)
  refine ⟨reasons, ⟨hparted.partings, ?_⟩, hwaits, ?_, ?_⟩
  · exact ⟨hparted.session.socket, hparted.session.framer, hparted.session.terminated⟩
  · rw [← hheard, noted_routeChat _ _ picks hacts, noted_deliver _ _ picks hacts, host_deliver,
      List.append_assoc, ← List.filter_append]
    rfl
  · rw [← hheard, host_routeChat, host_deliver]
    rfl

/-- All that waits is told, and the end of the connection if somebody drops it on the way. Each
event that asks for a command runs it as soon as all have heard of it. -/
theorem noted_flush (picks : Notice → Bool) (hacts : ∀ a r, picks (.acted a r) = false) :
    ∃ reasons, Parted reasons sc (sc.flush t) ∧ (sc.flush t).noted picks =
      sc.noted picks ++ (sc.session.queue ++ sc.session.farewell reasons).flatMap fun e =>
        (sc.host.callbacks e ++ sc.host.commandCallbacks e).filter (picks ·.notice) := by
  have hnothing {sc : Scene} (hempty : sc.session.queue = []) :
      ∃ reasons, Parted reasons sc sc ∧ sc.noted picks =
        sc.noted picks ++ (sc.session.queue ++ sc.session.farewell reasons).flatMap fun e =>
          (sc.host.callbacks e ++ sc.host.commandCallbacks e).filter (picks ·.notice) := by
    refine ⟨[], ⟨by simp, .refl _⟩, ?_⟩
    rw [hempty]
    simp [Session.farewell]
  have hfrom (fuel : Nat) (sc : Scene) (hfuel : sc.session.backlog ≤ fuel) :
      ∃ reasons, Parted reasons sc (sc.flushFrom t fuel) ∧ (sc.flushFrom t fuel).noted picks =
        sc.noted picks ++ (sc.session.queue ++ sc.session.farewell reasons).flatMap fun e =>
          (sc.host.callbacks e ++ sc.host.commandCallbacks e).filter (picks ·.notice) := by
    induction fuel generalizing sc with
    | zero =>
        have hlength : sc.session.queue.length = 0 := by
          rw [Session.backlog] at hfuel
          omega
        exact hnothing (List.eq_nil_of_length_eq_zero hlength)
    | succ fuel ih =>
        unfold flushFrom
        split
        · rename_i hempty
          exact hnothing hempty
        · rename_i e queue hqueue
          dsimp only
          generalize hheard : ((sc.onSession ({ · with queue })).deliver t e).routeChat t e = heard
          obtain ⟨reasons, hparted, hwaits, hnoted, hhost⟩ :=
            sc.noted_next t picks hacts e queue hheard
          have hbacklog : heard.session.backlog ≤ fuel := by
            rw [Session.backlog, hqueue, List.length_cons] at hfuel
            rw [hparted.session.backlog hwaits]
            omega
          obtain ⟨more, hends, hrest⟩ := ih heard hbacklog
          refine ⟨reasons ++ more, hparted.trans hends, ?_⟩
          rw [hrest, hnoted, hhost, hwaits, hqueue, hparted.session.farewell]
          simp
  refine hfrom _ sc ?_
  rw [Session.backlog]
  split <;> omega

theorem told_flush : ∃ reasons, Parted reasons sc (sc.flush t) ∧ (sc.flush t).told =
    sc.told ++ (sc.session.queue ++ sc.session.farewell reasons).flatMap sc.host.callbacks := by
  obtain ⟨reasons, hparted, hnoted⟩ := sc.noted_flush t Notice.tells fun _ _ => rfl
  have htells (e : Event) : (sc.host.callbacks e ++ sc.host.commandCallbacks e).filter
      (·.notice.tells) = sc.host.callbacks e := by
    rw [List.filter_append, Host.tells_callbacks, Host.tells_commandCallbacks, List.append_nil]
  exact ⟨reasons, hparted, hnoted.trans (by simp only [htells]; rfl)⟩

end Scene

/-- What observers hear of a line. -/
structure Report where
  events : List Event
  strange : Option Line
  text : String

def Report.callbacks (r : Report) (h : Host) : List Callback :=
  r.events.flatMap h.callbacks ++
    r.strange.toList.flatMap (fun line => h.pluginCallbacks (.other line) fun _ => true) ++
    h.pluginCallbacks (.raw r.text) fun _ => true

theorem Report.callbacks_sameBut (r : Report) {h after : Host} (hsame : h.SameBut after) :
    r.callbacks after = r.callbacks h := by
  rw [hsame]
  rfl

structure Host.Calm (h : Host) : Prop where
  other : ∀ p ∈ h.observers.plugins, ∀ line s, ∀ a ∈ p.onOther s line, a.closes = false
  raw : ∀ p ∈ h.observers.plugins, ∀ text s, ∀ a ∈ p.onRaw s text, a.closes = false

theorem Host.Calm.sameBut {h after : Host} (hcalm : h.Calm) (hsame : h.SameBut after) :
    after.Calm := by
  rw [hsame]
  exact ⟨hcalm.other, hcalm.raw⟩

namespace Scene

variable (t : Moment) (sc : Scene)

/-- The end of the connection, if somebody drops it over the events that wait. -/
def aftermath : List Event :=
  sc.session.farewell ((sc.flush t).partings.drop sc.partings.length)

def report? (line : Bytes) : Option Report :=
  match sc.session.delimiter with
  | none =>
    let read := sc.onSession (·.receiveBanner t line)
    some ⟨sc.bannerTidings line ++ read.aftermath t, none, Text.Utf8.decode line⟩
  | some delimiter =>
    (Line.parse? delimiter line).map fun line =>
      let read := (sc.absorb t line).2
      ⟨sc.produced t line ++ read.aftermath t, if line.isStrange then some line else none, line.raw⟩

theorem told_flush_aftermath : (sc.flush t).told =
    sc.told ++ (sc.session.queue ++ sc.aftermath t).flatMap sc.host.callbacks := by
  obtain ⟨reasons, hparted, htold⟩ := sc.told_flush t
  rw [htold, aftermath, hparted.partings, List.drop_left]

theorem Yields.journal {sc after : Scene} (h : sc.Yields after) : after.journal = sc.journal := by
  rcases h with hserves | ⟨between, hserves, hfalls⟩
  · exact hserves.journal
  · exact hfalls.journal.trans hserves.journal

theorem Yields.framer {sc after : Scene} (h : sc.Yields after) :
    after.session.framer = sc.session.framer ∨
      after.session.framer = sc.session.framer.clear ∧ after.session.terminated.isSome := by
  rcases h with hserves | ⟨between, hserves, hfalls⟩
  · obtain ⟨events, hevents⟩ := hserves.session
    exact .inl hevents.framer
  · obtain ⟨events, hevents⟩ := hserves.session
    obtain ⟨reason, hsame⟩ := hfalls.session.same
    refine .inr ⟨?_, hfalls.terminated⟩
    rw [hsame, ← hevents.framer]
    rfl

/-- A line has been reported, and nothing more waits. What has been read behind it is still there,
unless the session has ended or somebody has dropped the connection. -/
structure Reported (report : Report) (sc after : Scene) : Prop where
  told : after.told = sc.told ++ report.callbacks sc.host
  queue : after.session.queue = []
  host : sc.host.SameBut after.host
  framer : ∃ reasons, after.partings = sc.partings ++ reasons ∧
    (reasons = [] → after.session.terminated = none → after.session.framer = sc.session.framer) ∧
    (reasons ≠ [] → after.session.framer = sc.session.framer.clear)

variable {sc}

theorem Reported.of_read {read : Scene} (hread : sc.Yields read) (hcalm : sc.host.Calm)
    {events : List Event} (hqueue : read.session.queue = events) (strange : Option Line)
    (text : String) :
    Reported ⟨events ++ read.aftermath t, strange, text⟩ sc
      ((strange.elim (read.flush t) ((read.flush t).deliverOther t ·)).deliverRaw t text) := by
  have hhost : sc.host.SameBut (read.flush t).host := by
    rw [host_flush]
    exact hread.host
  generalize hheard : strange.elim (read.flush t) ((read.flush t).deliverOther t ·) = heard
  have hother : heard.told = (read.flush t).told ++
      strange.toList.flatMap (fun line => sc.host.pluginCallbacks (.other line) fun _ => true) ∧
      heard.host = (read.flush t).host ∧ Answered True (read.flush t) heard := by
    rw [← hheard]
    cases strange with
    | none => exact ⟨(List.append_nil _).symm, rfl, .of_session rfl rfl⟩
    | some line =>
        rw [Option.elim_some, deliverOther]
        refine ⟨?_, host_callPlugins t _ _ _ _, answered_callPlugins t rfl _ _ fun _ p hp =>
          (hcalm.sameBut hhost).other p hp line⟩
        rw [told_callPlugins _ _ _ rfl, hhost]
        simp [Host.pluginCallbacks]
  obtain ⟨htold, hsame, hothers⟩ := hother
  have hraw : Answered True heard (heard.deliverRaw t text) :=
    answered_callPlugins t rfl _ _ fun _ p hp =>
      (hcalm.sameBut hhost).raw p (hsame ▸ hp) text
  obtain ⟨none, hnone, hkept, hstill⟩ := hothers.trans hraw
  rw [hnone trivial] at hkept hstill
  obtain ⟨reasons, hparted, -⟩ := read.told_flush t
  have hpartings : read.partings = sc.partings := by
    rw [partings, hread.journal, partings]
  have hbefore : read.told = sc.told := by
    rw [Scene.told, hread.journal, Scene.told]
  refine ⟨?_, ?_, ?_, reasons, ?_, ?_, ?_⟩
  · rw [deliverRaw, told_callPlugins _ _ _ rfl, htold, told_flush_aftermath, hbefore, hqueue,
      hread.host.callbacks, hsame, hhost]
    simp [Report.callbacks, Host.pluginCallbacks]
  · rw [hstill, rests_flush]
    simp [Session.farewell]
  · rw [deliverRaw, host_callPlugins, hsame]
    exact hhost
  · rw [hkept.partings, hparted.partings, hpartings, List.append_nil]
  · intro hstays hopen
    rw [hkept.session.terminated rfl, hparted.session.terminated hstays] at hopen
    rw [hkept.session.framer, hparted.session.framer, hstays]
    rcases hread.framer with hframer | ⟨-, hended⟩
    · exact hframer
    · rw [hopen] at hended
      cases hended
  · intro hparts
    rw [hkept.session.framer, hparted.session.framer, if_pos List.isEmpty_nil,
      if_neg (by simpa using hparts)]
    rcases hread.framer with hframer | ⟨hframer, -⟩ <;> rw [hframer]
    rfl

theorem reported_processLine (hcalm : sc.host.Calm) (hqueue : sc.session.queue = []) {line : Bytes}
    (hline : line ≠ []) : ∃ report, sc.report? t line = some report ∧
      Reported report sc (sc.processLine t line) := by
  unfold report? processLine
  cases sc.session.delimiter with
  | none =>
      refine ⟨_, rfl, .of_read t (sc.yields_banner t line) hcalm ?_ none _⟩
      refine (sc.queue_receiveBanner t line).trans ?_
      rw [hqueue, List.nil_append]
  | some delimiter =>
      obtain ⟨byte, payload, rfl⟩ := List.exists_cons_of_ne_nil hline
      refine ⟨_, rfl, ?_⟩
      dsimp only [Line.parse?]
      generalize ({ kind := .ofByte byte, fields := _, delimiter } : Line) = parsed
      have hproduced : (sc.absorb t parsed).2.session.queue = sc.produced t parsed := by
        rw [queue_absorb, hqueue, List.nil_append]
      have hreported := Reported.of_read t (sc.yields_absorb t parsed) hcalm hproduced
        (if parsed.isStrange then some parsed else none) parsed.raw
      rw [processFields_eq, recognised_absorb]
      cases hstrange : parsed.isStrange <;> simpa [hstrange] using hreported

end Scene

namespace Wire

def wholeLines (lines : List Bytes) : Bytes :=
  lines.flatMap (· ++ [newline])

/-- A single line that is not empty, apart from the carriage return that may end it. -/
structure Whole (line : Bytes) : Prop where
  single : newline ∉ line
  filled : stripReturn line ≠ []

instance : DecidablePred Whole := fun line =>
  decidable_of_iff (newline ∉ line ∧ stripReturn line ≠ [])
    ⟨fun h => ⟨h.1, h.2⟩, fun h => ⟨h.single, h.filled⟩⟩

theorem length_le_wholeLines (lines : List Bytes) : lines.length ≤ (wholeLines lines).length := by
  induction lines with
  | nil => exact Nat.le_refl _
  | cons line lines ih =>
      simp only [wholeLines, List.flatMap_cons, List.length_append, List.length_cons] at ih ⊢
      omega

theorem next_of_whole {f : Framer} {line : Bytes} {lines : List Bytes} (hline : Whole line)
    (hopen : f.discarding = false) (hbuffer : f.buffer = wholeLines (line :: lines)) :
    f.next = (some (stripReturn line), f.behind (wholeLines lines)) := by
  have hsplit : f.buffer = line ++ newline :: wholeLines lines := by
    rw [hbuffer]
    simp [wholeLines]
  rw [Framer.next_of_line hsplit hline.single, hopen, if_neg (by simpa using hline.filled)]

theorem next_of_empty {f : Framer} (hbuffer : f.buffer = []) : f.next = (none, f) := by
  rw [Framer.next_of_open (by simp [hbuffer]), Framer.settle, hbuffer, if_neg (by simp)]

end Wire

namespace Scene

open Wire (wholeLines Whole stripReturn)

/-- What observers hear of lines that have arrived together: of each in turn, until the session has
ended or somebody drops the connection. -/
def reports (t : Moment) : Scene → List Bytes → List Report
  | _, [] => []
  | sc, line :: lines =>
    if sc.session.terminated.isSome then []
    else
      let framer := sc.session.framer.behind (wholeLines lines)
      let read := sc.onSession ({ · with framer })
      let after := read.processLine t (stripReturn line)
      (read.report? t (stripReturn line)).toList ++
        if after.partings = sc.partings then after.reports t lines else []

/-- Lines have been reported, one after the other. Only the end of the session or of the connection
keeps any of them from it. -/
structure ReportedAll (reports : List Report) (lines : Nat) (sc after : Scene) : Prop where
  told : after.told = sc.told ++ reports.flatMap (·.callbacks sc.host)
  queue : after.session.queue = []
  host : sc.host.SameBut after.host
  ended : sc.session.terminated.isSome → after.session.terminated.isSome
  partings : ∃ reasons, after.partings = sc.partings ++ reasons ∧
    (reasons = [] → after.session.terminated = none → reports.length = lines)

namespace ReportedAll

variable {t : Moment} {sc between after : Scene}

theorem nothing {lines : Nat} (hlines : sc.session.terminated = none → lines = 0)
    (hqueue : sc.session.queue = []) : ReportedAll [] lines sc sc where
  told := (List.append_nil _).symm
  queue := hqueue
  host := .refl _
  ended := id
  partings := ⟨[], (List.append_nil _).symm, fun _ hopen => (hlines hopen).symm⟩

theorem trans {reports more : List Report} {lines others : Nat}
    (h : ReportedAll reports lines sc between) (h' : ReportedAll more others between after) :
    ReportedAll (reports ++ more) (lines + others) sc after where
  told := by
    have hsame : (fun r : Report => r.callbacks between.host) = fun r => r.callbacks sc.host :=
      funext fun r => r.callbacks_sameBut h.host
    rw [h'.told, h.told, hsame, List.flatMap_append, List.append_assoc]
  queue := h'.queue
  host := h.host.trans h'.host
  ended hended := h'.ended (h.ended hended)
  partings := by
    obtain ⟨reasons, hreasons, hall⟩ := h.partings
    obtain ⟨further, hfurther, hothers⟩ := h'.partings
    refine ⟨reasons ++ further, by rw [hfurther, hreasons, List.append_assoc], ?_⟩
    intro hnone hopen
    obtain ⟨hnone, hnone'⟩ := List.append_eq_nil_iff.1 hnone
    have hbetween : between.session.terminated = none := by
      rw [← Option.not_isSome_iff_eq_none]
      intro hended
      simpa [hopen] using h'.ended hended
    rw [List.length_append, hall hnone hbetween, hothers hnone' hopen]

end ReportedAll

variable {t : Moment} {sc : Scene}

theorem processLines_of_empty (hbuffer : sc.session.framer.buffer = []) (fuel : Nat) :
    sc.processLines t fuel = sc := by
  cases fuel with
  | zero => rfl
  | succ fuel =>
      unfold processLines
      rw [Wire.next_of_empty hbuffer]
      split <;> rfl

/-- What the framer of a session still holds, unless the session has ended. -/
def Holds (lines : List Bytes) (s : Session) : Prop :=
  s.terminated = none → s.framer.buffer = wholeLines lines ∧ s.framer.discarding = false

theorem reportedAll_processLines {lines : List Bytes} (hlines : ∀ line ∈ lines, Whole line)
    {fuel : Nat} (hfuel : lines.length < fuel) (hcalm : sc.host.Calm)
    (hqueue : sc.session.queue = []) (hframer : Holds lines sc.session) :
    ReportedAll (sc.reports t lines) lines.length sc (sc.processLines t fuel) ∧
      Holds [] (sc.processLines t fuel).session := by
  induction lines generalizing sc fuel with
  | nil =>
      have hsame : sc.processLines t fuel = sc := by
        by_cases hended : sc.session.terminated.isSome
        · exact processLines_of_ended hended fuel
        · exact processLines_of_empty (hframer (Option.not_isSome_iff_eq_none.1 hended)).1 fuel
      rw [hsame]
      exact ⟨.nothing (fun _ => rfl) hqueue, hframer⟩
  | cons line lines ih =>
      by_cases hended : sc.session.terminated.isSome
      · rw [processLines_of_ended hended, reports, if_pos hended]
        refine ⟨.nothing (fun hopen => ?_) hqueue, fun hopen => ?_⟩ <;> simp [hopen] at hended
      obtain ⟨fuel, rfl⟩ := Nat.exists_eq_add_one_of_ne_zero (Nat.ne_zero_of_lt hfuel)
      obtain ⟨hline, hlines⟩ := List.forall_mem_cons.1 hlines
      obtain ⟨hbuffer, hopen⟩ := hframer (Option.not_isSome_iff_eq_none.1 hended)
      rw [reports, if_neg hended, processLines, if_neg hended,
        Wire.next_of_whole hline hopen hbuffer]
      dsimp only
      generalize hread : sc.onSession
        ({ · with framer := sc.session.framer.behind (wholeLines lines) }) = read
      have hframed : read.session.framer.buffer = wholeLines lines ∧
          read.session.framer.discarding = false := by
        rw [← hread]
        exact ⟨rfl, rfl⟩
      have hsame : read.told = sc.told ∧ read.host = sc.host ∧ read.partings = sc.partings := by
        rw [← hread]
        exact ⟨rfl, rfl, rfl⟩
      have hcalm' : read.host.Calm := hread ▸ hcalm
      obtain ⟨report, hreport, hdone⟩ :=
        reported_processLine t hcalm' (hread ▸ hqueue) hline.filled
      generalize read.processLine t (stripReturn line) = after at hdone
      obtain ⟨reasons, hpartings, hkept, hcut⟩ := hdone.framer
      rw [hsame.2.2] at hpartings
      have hfirst {count : Nat} (hcount : reasons = [] → count = 1) :
          ReportedAll [report] count sc after := by
        refine ⟨?_, hdone.queue, hsame.2.1 ▸ hdone.host, fun h => absurd h hended, reasons,
          hpartings, fun hnone _ => (hcount hnone).symm⟩
        rw [hdone.told, hsame.1, hsame.2.1]
        simp
      rw [hreport, Option.toList_some, hpartings]
      by_cases hstays : reasons = []
      · have hholds : Holds lines after.session := by
          intro hopen
          rw [hkept hstays hopen]
          exact hframed
        obtain ⟨hrest, hempty⟩ := ih hlines (Nat.lt_of_succ_lt_succ hfuel)
          (hcalm.sameBut (hsame.2.1 ▸ hdone.host)) hdone.queue hholds
        rw [if_pos (by simp [hstays]), List.length_cons, Nat.add_comm]
        exact ⟨(hfirst fun _ => rfl).trans hrest, hempty⟩
      · have hcleared := hcut hstays
        rw [if_neg (by simpa using hstays), List.append_nil,
          processLines_of_empty (by rw [hcleared]; rfl)]
        refine ⟨hfirst fun hnone => absurd hnone hstays, fun _ => ?_⟩
        rw [hcleared]
        exact ⟨rfl, rfl⟩

def bring (t : Moment) (lines : List Bytes) (sc : Scene) : Scene :=
  sc.onSession fun s => { s with framer := s.framer.push (wholeLines lines), lastReceived := t.now }

/-- The reports of lines that arrive in several calls. -/
def reportsOfAll : Scene → List (Moment × List Bytes) → List Report
  | _, [] => []
  | sc, (t, lines) :: calls =>
    (sc.bring t lines).reports t lines ++
      (sc.processData t (wholeLines lines)).reportsOfAll calls

def hearAll (sc : Scene) (calls : List (Moment × List Bytes)) : Scene :=
  calls.foldl (fun sc (t, lines) => sc.processData t (wholeLines lines)) sc

theorem flush_of_empty (hqueue : sc.session.queue = []) : sc.flush t = sc := by
  rw [flush, hqueue, flushFrom, hqueue]

theorem reportedAll_processData {lines : List Bytes} (hlines : ∀ line ∈ lines, Whole line)
    (hcalm : sc.host.Calm) (hqueue : sc.session.queue = []) (hframer : Holds [] sc.session) :
    ReportedAll ((sc.bring t lines).reports t lines) lines.length sc
        (sc.processData t (wholeLines lines)) ∧
      Holds [] (sc.processData t (wholeLines lines)).session := by
  have hholds : Holds lines (sc.bring t lines).session := by
    intro hopen
    obtain ⟨hbuffer, hwhole⟩ := hframer hopen
    refine ⟨?_, hwhole⟩
    change sc.session.framer.buffer ++ wholeLines lines = wholeLines lines
    rw [hbuffer]
    rfl
  have hfuel : lines.length < (sc.session.framer.push (wholeLines lines)).buffer.length + 1 := by
    have hlength := Wire.length_le_wholeLines lines
    simp only [Framer.push, List.length_append]
    omega
  have hcalm' : (sc.bring t lines).host.Calm := hcalm
  obtain ⟨hreported, hempty⟩ :=
    reportedAll_processLines (t := t) hlines hfuel hcalm' hqueue hholds
  have hdata : sc.processData t (wholeLines lines) = (sc.bring t lines).processLines t
      ((sc.session.framer.push (wholeLines lines)).buffer.length + 1) :=
    flush_of_empty hreported.queue
  rw [hdata]
  exact ⟨⟨hreported.told, hreported.queue, hreported.host, hreported.ended, hreported.partings⟩,
    hempty⟩

theorem reportedAll_hearAll {calls : List (Moment × List Bytes)}
    (hlines : ∀ call ∈ calls, ∀ line ∈ call.2, Whole line) (hcalm : sc.host.Calm)
    (hqueue : sc.session.queue = []) (hframer : Holds [] sc.session) :
    ReportedAll (sc.reportsOfAll calls) (calls.flatMap Prod.snd).length sc (sc.hearAll calls) := by
  induction calls generalizing sc with
  | nil => exact .nothing (fun _ => rfl) hqueue
  | cons call calls ih =>
      obtain ⟨t, lines⟩ := call
      obtain ⟨hfirst, hrest⟩ := List.forall_mem_cons.1 hlines
      obtain ⟨hreported, hempty⟩ := reportedAll_processData (t := t) hfirst hcalm hqueue hframer
      have hothers := ih hrest (hcalm.sameBut hreported.host) hreported.queue hempty
      rw [List.flatMap_cons, List.length_append]
      exact hreported.trans hothers

/-- Of whole lines that arrive while nothing waits, observers hear line by line: of all events that
a line caused, in their order, then of the line itself if nothing recognised it, and at last its
text. No line is left out, unless the session has ended or somebody has dropped the connection. -/
theorem lines_are_reported_in_full_and_in_order {calls : List (Moment × List Bytes)}
    (hlines : ∀ call ∈ calls, ∀ line ∈ call.2, Whole line) (hcalm : sc.host.Calm)
    (hqueue : sc.session.queue = []) (hbuffer : sc.session.framer.buffer = [])
    (hopen : sc.session.framer.discarding = false) :
    (sc.hearAll calls).told =
        sc.told ++ (sc.reportsOfAll calls).flatMap (·.callbacks sc.host) ∧
      ((sc.hearAll calls).session.terminated = none → (sc.hearAll calls).partings = sc.partings →
        (sc.reportsOfAll calls).length = (calls.flatMap Prod.snd).length) := by
  have hreported := reportedAll_hearAll hlines hcalm hqueue fun _ => ⟨hbuffer, hopen⟩
  refine ⟨hreported.told, fun hgoes hsame => ?_⟩
  obtain ⟨reasons, hreasons, hall⟩ := hreported.partings
  refine hall ?_ hgoes
  rw [hsame] at hreasons
  exact List.self_eq_append_right.1 hreasons

theorem lines_are_reported_in_full_and_in_order_during_the_handshake :
    let host : Host := { observers := { plugins := [{
      name := "greeter"
      onEvent := fun _ _ => [.say "hello"] }] } }
    let sc := (start host { name := "eu" } ⟨0⟩).after
      [(⟨⟨1⟩, 0⟩, .turn .underway [] (.took 0)), (⟨⟨2⟩, 0⟩, .turn .opened [] (.took 0))]
    let calls := [(⟨⟨3⟩, 0⟩, ["v005\x02game".toUTF8.toList]),
      (⟨⟨4⟩, 0⟩, ["aroot\r".toUTF8.toList, "xnews".toUTF8.toList])]
    (sc.reportsOfAll calls).map (·.events) = [[], [.authenticated "root"], []] ∧
      (sc.reportsOfAll calls).map (·.strange.isSome) = [false, false, true] ∧
      (sc.hearAll calls).told =
        sc.told ++ (sc.reportsOfAll calls).flatMap (·.callbacks sc.host) ∧
      ((sc.hearAll calls).session.terminated = none → (sc.hearAll calls).partings = sc.partings →
        (sc.reportsOfAll calls).length = (calls.flatMap Prod.snd).length) := by
  intro host sc calls
  have hcalm : sc.host.Calm := by
    have hhost : sc.host = host := rfl
    rw [hhost]
    refine ⟨fun p hp => ?_, fun p hp => ?_⟩
    · rw [List.mem_singleton.1 hp]
      exact fun _ _ a ha => absurd ha List.not_mem_nil
    · rw [List.mem_singleton.1 hp]
      exact fun _ _ a ha => absurd ha List.not_mem_nil
  have hlines : ∀ call ∈ calls, ∀ line ∈ call.2, Whole line := by decide +kernel
  have hevents : (sc.reportsOfAll calls).map (·.events) = [[], [.authenticated "root"], []] := by
    decide +kernel
  have hstrange : (sc.reportsOfAll calls).map (·.strange.isSome) = [false, false, true] := by
    decide +kernel
  exact ⟨hevents, hstrange, lines_are_reported_in_full_and_in_order hlines hcalm
    (by decide +kernel) (by decide +kernel) (by decide +kernel)⟩

end Scene

end RemoteConsole
