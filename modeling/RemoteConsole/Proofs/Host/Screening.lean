import RemoteConsole.Proofs.Ban.Marking
import RemoteConsole.Proofs.Host.Course
import RemoteConsole.Proofs.Host.Quiet

namespace RemoteConsole

open Match (Model Player Screened)

/-- The ban is in the list of the host, and the file behind the list can be written. -/
def Ban.Entry.StandsAt (b : Ban.Entry) (host : Host) : Prop :=
  ∃ book shelf, host.bans = some (book, shelf) ∧ book.Sound ∧ shelf.Writable ∧ b ∈ book.entries

namespace Host

variable {b : Ban.Entry} {host : Host}

theorem standsAt_of_bans (h : b.StandsAt host) {after : Host} (hbans : after.bans = host.bans) :
    b.StandsAt after := by
  unfold Ban.Entry.StandsAt
  rw [hbans]
  exact h

/-- A list that was opened can be trusted, whatever its file held. -/
theorem standsAt_of_openAt {now : UInt64} {shelf after : Store.Shelf} {book : Ban.Book}
    (hopen : Ban.Book.openAt now shelf = (.ok book, after)) (hafter : after.Writable)
    (hb : b ∈ book.entries) (hbans : host.bans = some (book, after)) : b.StandsAt host :=
  ⟨book, after, hbans, Ban.Book.sound_of_openAt hopen, hafter, hb⟩

theorem checkBans_of_stands (h : b.StandsAt host) (hactive : b.isActive) {now : Instant}
    (hlasting : b.isExpired now.unix = false) (p : Player) :
    ∃ kinds after, host.checkBans now p =
        (kinds, { p with banFlags := p.banFlags.union kinds }, after) ∧
      b.Marks { p with banFlags := p.banFlags.union kinds } ∧ b.StandsAt after := by
  obtain ⟨book, shelf, hbans, hsound, hshelf, hb⟩ := h
  obtain ⟨kinds, left, after, hcheck, hmarks, hstays, hleft, hafter⟩ :=
    Ban.Book.check_of_sound hsound hshelf now.unix p
  refine ⟨kinds, { host with bans := some (left, after) }, ?_, fun hconcerns => ?_,
    left, after, rfl, hleft, hafter, hstays b hb hlasting⟩
  · simp only [checkBans, hbans, hcheck]
  · exact Ban.Flags.contains_union_right (hmarks b hb hactive hconcerns hlasting) _

theorem addBan_of_stands (h : b.StandsAt host) (now : Instant) (p : Player)
    (banner reason : String) (duration : UInt64) (kinds : Ban.Flags) :
    b.StandsAt (host.addBan now p banner reason duration kinds).2 := by
  obtain ⟨book, shelf, hbans, hsound, hshelf, hb⟩ := h
  obtain ⟨grown, after, henter, hentries, hgrown, hafter⟩ :=
    Ban.Book.enter_of_sound hsound hshelf
      { Ban.Entry.against p banner reason duration kinds now.unix with
        extra := (Ban.Entry.against p banner reason duration kinds now.unix).extra.insertAll
          (host.observers.annotate (Ban.Entry.against p banner reason duration kinds now.unix)) }
  refine ⟨grown, after, ?_, hgrown, hafter, hentries ▸ List.mem_append_left _ hb⟩
  simp only [addBan, hbans, Ban.Book.add, henter]

theorem credit_bans (now : Instant) (m : Model) (winner : Option Team) (tie : Bool) :
    (host.credit now m winner tie).bans = host.bans := by
  unfold credit
  split
  · rfl
  · dsimp only
    split <;> rfl

end Host

namespace Scene

structure Guarded (b : Ban.Entry) (sc : Scene) : Prop where
  checks : sc.session.settings.banCheck
  stands : b.StandsAt sc.host

variable {b : Ban.Entry} {t : Moment} {sc : Scene}

/-- The players of these ids have been looked up, and the others are as they were. -/
structure Screens (b : Ban.Entry) (brought : List PlayerId) (sc after : Scene) : Prop where
  guarded : after.Guarded b
  ids : after.session.model.ids = sc.session.model.ids
  others : ∀ p, p.id ∉ brought →
    (p ∈ after.session.model.players ↔ p ∈ sc.session.model.players)
  marked : sc.session.model.Distinct → ∀ p ∈ after.session.model.players, p.id ∈ brought →
    b.Marks p

namespace Screens

variable {brought more : List PlayerId} {between after : Scene}

theorem of_keeps (h : sc.Guarded b) (hbans : after.host.bans = sc.host.bans)
    (hsettings : after.session.settings = sc.session.settings)
    (hmodel : after.session.model = sc.session.model) : Screens b [] sc after where
  guarded := ⟨hsettings ▸ h.checks, Host.standsAt_of_bans h.stands hbans⟩
  ids := by rw [hmodel]
  others p _ := by rw [hmodel]
  marked _ _ _ hid := absurd hid List.not_mem_nil

theorem refl (h : sc.Guarded b) : Screens b [] sc sc :=
  of_keeps h rfl rfl rfl

theorem trans (h : Screens b brought sc between) (h' : Screens b more between after) :
    Screens b (brought ++ more) sc after where
  guarded := h'.guarded
  ids := h'.ids.trans h.ids
  others p hp := by
    obtain ⟨hbrought, hmore⟩ := not_or.1 (mt List.mem_append.2 hp)
    exact (h'.others p hmore).trans (h.others p hbrought)
  marked hdistinct p hp hid := by
    have hbetween : between.session.model.Distinct := by
      rw [Model.Distinct, h.ids]
      exact hdistinct
    by_cases hmore : p.id ∈ more
    · exact h'.marked hbetween p hp hmore
    · have hbrought := (List.mem_append.1 hid).resolve_right hmore
      exact h.marked hdistinct p ((h'.others p hmore).1 hp) hbrought

theorem keeps (h : Screens b brought sc between) (h' : Screens b [] between after) :
    Screens b brought sc after := by
  have := h.trans h'
  rwa [List.append_nil] at this

end Screens

section Events

variable (hactive : b.isActive) (hlasting : b.isExpired t.now.unix = false)

include hactive hlasting

theorem screens_screen (h : sc.Guarded b) (id : PlayerId) :
    Screens b [id] sc (sc.screen t id).2 := by
  unfold screen
  cases hfound : sc.session.model.player? id with
  | none =>
      have hnobody : id ∉ sc.session.model.ids := by
        rw [← Model.isSome_player?, hfound]
        simp
      refine ⟨h, rfl, fun _ _ => Iff.rfl, fun _ p hp hid => ?_⟩
      rw [← List.mem_singleton.1 hid] at hnobody
      exact absurd (List.mem_map_of_mem hp) hnobody
  | some p =>
      obtain ⟨hp, hid⟩ := Model.player?_eq_some_id hfound
      obtain ⟨kinds, after, hcheck, hmarks, hafter⟩ := Host.checkBans_of_stands h.stands hactive
        hlasting { p with hostName := sc.host.lookUp p.address p.hostName }
      simp only [h.checks, if_true, hcheck]
      generalize hnew : ({ p with
        hostName := sc.host.lookUp p.address p.hostName
        banFlags := p.banFlags.union kinds } : Player) = new at hmarks ⊢
      have hnewid : new.id = p.id := by rw [← hnew]
      have hthere : new.id ∈ sc.session.model.ids := hnewid ▸ List.mem_map_of_mem hp
      rw [← hid, ← hnewid]
      refine ⟨⟨h.checks, hafter⟩, sc.session.model.ids_replace rfl, fun q hq => ?_,
        fun hdistinct q hq hqid => ?_⟩
      · exact Model.mem_replace_of_ne (mt List.mem_singleton.2 hq)
      · rw [hdistinct.eq_of_mem_replace hthere hq (List.mem_singleton.1 hqid)]
        exact hmarks

theorem screens_attend (h : sc.Guarded b) (e : Event) :
    Screens b e.brought?.toList sc (sc.attend t e).2.2 := by
  cases e with
  | playerJoin p => exact screens_screen hactive hlasting h p.id
  | playerDiscovered p => exact screens_screen hactive hlasting h p.id
  | matchEnd outcome =>
      unfold attend finishMatch
      dsimp only
      split
      · exact .of_keeps h (Host.credit_bans ..) rfl rfl
      · exact .of_keeps h rfl rfl rfl
  | mapStart map =>
      obtain ⟨hsettings, hmodel⟩ := sc.session.sendAll_keeps t.now
        ["binfo", "gameinfo", Session.ping Session.tableEndToken]
      exact .of_keeps h rfl hsettings hmodel
  | _ => exact .refl h

theorem screens_handle (h : sc.Guarded b) (e : Event) :
    Screens b e.brought?.toList sc (sc.handle t e) := by
  have hattend := screens_attend hactive hlasting h e
  unfold handle
  generalize sc.attend t e = attended at hattend
  obtain ⟨kinds, told, after⟩ := attended
  have hemit (sc : Scene) (h : sc.Guarded b) (e : Event) :
      Screens b [] sc (sc.onSession (·.emit e)) := .of_keeps h rfl rfl rfl
  have hkick (sc : Scene) (h : sc.Guarded b) (p : Player) :
      Screens b [] sc (sc.onSession fun s => (s.kick t.now p.id banReason).2) :=
    .of_keeps h rfl (sc.session.request_keeps ..).1 (sc.session.request_keeps ..).2
  have htold := hattend.keeps (hemit _ hattend.guarded told)
  dsimp only
  split
  · exact htold
  · rename_i p _
    split
    · exact htold
    · split
      · have hkicked := htold.keeps (hkick _ htold.guarded p)
        exact hkicked.keeps (hemit _ hkicked.guarded _)
      · exact htold.keeps (hemit _ htold.guarded _)

theorem screens_handleEvents (h : sc.Guarded b) (events : List Event) :
    Screens b (events.filterMap Event.brought?) sc (events.foldl (handle t) sc) := by
  induction events generalizing sc with
  | nil => exact .refl h
  | cons e events ih =>
      have hfirst := screens_handle hactive hlasting h e
      have hrest := hfirst.trans (ih hfirst.guarded)
      cases hbrought : e.brought? with
      | none => simpa [hbrought] using hrest
      | some id => simpa [hbrought] using hrest

theorem screened_handleAll_iff (h : sc.Guarded b) (r : Model × List Event) :
    (sc.handleAll t r).Guarded b ∧ (Screened b (sc.handleAll t r).session.model ↔
      r.1.Distinct ∧ ∀ p ∈ r.1.players, p.id ∉ r.2.filterMap Event.brought? → b.Marks p) := by
  have hstart : (sc.onSession ({ · with model := r.1 })).Guarded b := ⟨h.checks, h.stands⟩
  have hscreens := screens_handleEvents hactive hlasting hstart r.2
  have hdistinct : (sc.handleAll t r).session.model.Distinct ↔ r.1.Distinct := by
    unfold Model.Distinct handleAll
    rw [hscreens.ids]
    rfl
  refine ⟨hscreens.guarded, fun h => ⟨hdistinct.1 h.distinct, fun p hp hnew => ?_⟩,
    fun ⟨h, hothers⟩ => ⟨hdistinct.2 h, fun p hp => ?_⟩⟩
  · exact h.marked p ((hscreens.others p hnew).2 hp)
  · by_cases hnew : p.id ∈ r.2.filterMap Event.brought?
    · exact hscreens.marked h p hp hnew
    · exact hothers p ((hscreens.others p hnew).1 hp) hnew

end Events

/-- A player gets past the check. Either a line gives a player the id of someone else, or an answer
tells of a player who was there before what brings them under the ban: there is an event only for
those whom it discovers. -/
def Step.Escapes (b : Ban.Entry) (t : Moment) (sc : Scene) : Step → Prop
  | .line l => l.kind = .log ∧ Match.Clashes sc.session.model (GameLog.classify l)
  | .answer => ∃ table, sc.session.response = some table ∧
      ∃ p ∈ (sc.session.model.applyTable t.now table).1.players,
        p.id ∈ sc.session.model.ids ∧ ¬ b.Marks p
  | _ => False

/-- Players are still looked up afterwards, and if all were screened before they still are, unless
someone `escapes`. -/
structure Upholds (b : Ban.Entry) (escapes : Prop) (sc after : Scene) : Prop where
  guarded : after.Guarded b
  screened : Screened b sc.session.model → (Screened b after.session.model ↔ ¬ escapes)

theorem upholds_of_quiet (h : sc.Guarded b) {escapes : Prop} (hnone : ¬ escapes) {after : Scene}
    (hquiet : Quiet sc after) : Upholds b escapes sc after where
  guarded := ⟨hquiet.session.settings ▸ h.checks, Host.standsAt_of_bans h.stands hquiet.bans⟩
  screened hscreened := iff_of_true (hscreened.of_identities hquiet.session.players) hnone

theorem upholds_ban (h : sc.Guarded b) (id : PlayerId) (author reason : String)
    (duration : UInt64) : Upholds b False sc (sc.banPlayer t id author reason duration).2 := by
  have hkick (sc : Scene) (h : sc.Guarded b) :
      Upholds b False sc { sc with session := (sc.session.kick t.now id reason).2 } :=
    upholds_of_quiet h not_false ⟨rfl, Session.quiet_request ..⟩
  unfold banPlayer
  cases hfound : sc.session.model.player? id with
  | none => exact hkick sc h
  | some p =>
      obtain ⟨hp, hid⟩ := Model.player?_eq_some_id hfound
      dsimp only
      generalize hnew : ({ p with banFlags := p.banFlags.union .game } : Player) = new
      generalize hhost : (sc.host.addBan t.now new author reason duration .game).2 = host
      have hbanned := hkick ({ sc with host }.onSession fun s =>
        { s with model := s.model.edit id fun _ => new })
        ⟨h.checks, hhost ▸ Host.addBan_of_stands h.stands ..⟩
      refine ⟨hbanned.guarded, fun hscreened => hbanned.screened ?_⟩
      have hmarks : b.Marks new := by
        rw [← hnew]
        exact fun hconcerns =>
          Ban.Flags.contains_union_left (hscreened.marked p hp hconcerns) _
      have hnewid : new.id = id := by rw [← hnew]; exact hid
      rw [← hnewid]
      exact hscreened.replace hmarks

section Steps

variable (hactive : b.isActive) (hlasting : b.isExpired t.now.unix = false)

include hactive hlasting

theorem upholds_line (h : sc.Guarded b) (l : Wire.Line) :
    Upholds b (Step.Escapes b t sc (.line l)) sc (sc.receive t l).2 := by
  rcases sc.receive_cases t l with ⟨hquiet, hunknown⟩ | ⟨hlog, hreceive⟩
  · refine upholds_of_quiet h (fun ⟨hlog, hclash⟩ => ?_) hquiet
    have := hunknown hlog
    generalize GameLog.classify l = e at hclash this
    cases e <;> first | exact hclash | cases this
  · have hescapes : Step.Escapes b t sc (.line l) ↔
        Match.Clashes sc.session.model (GameLog.classify l) := and_iff_right hlog
    rw [hreceive, hescapes]
    generalize GameLog.classify l = e
    obtain ⟨hguarded, hiff⟩ := screened_handleAll_iff hactive hlasting h
      (sc.session.model.apply t.now e)
    refine ⟨hguarded, fun hscreened => hiff.trans ?_⟩
    rw [hscreened.distinct.apply_iff t.now e]
    exact and_iff_left fun p hp hnew =>
      (Ban.Entry.marks_or_brought hscreened.marked t.now e p hp).resolve_right hnew

theorem upholds_answer (h : sc.Guarded b) :
    Upholds b (Step.Escapes b t sc .answer) sc (sc.finishResponse t) := by
  unfold finishResponse Step.Escapes
  cases hresponse : sc.session.response with
  | none => exact upholds_of_quiet h (by simp) (.refl sc)
  | some table =>
      have hrefreshes := sc.session.model.refreshes_applyTable t.now table
      have hmodel : (sc.onSession ({ · with response := none })).session.model =
        sc.session.model := rfl
      have hdropped : (sc.onSession ({ · with response := none })).Guarded b :=
        ⟨h.checks, h.stands⟩
      simp only [Option.some.injEq, exists_eq_left', hmodel]
      generalize sc.session.model.applyTable t.now table = result at hrefreshes ⊢
      obtain ⟨hguarded, hiff⟩ := screened_handleAll_iff hactive hlasting hdropped result
      refine ⟨hguarded, fun hscreened => hiff.trans ?_⟩
      simp only [not_exists, not_and, not_not]
      refine ⟨fun ⟨_, hold⟩ p hp hid => hold p hp (hrefreshes.strangers hscreened.distinct _ hid),
        fun hold => ⟨hrefreshes.distinct hscreened.distinct, fun p hp hnew => hold p hp ?_⟩⟩
      exact (hrefreshes.brought _ (List.mem_map_of_mem hp)).resolve_right hnew

theorem upholds_run (h : sc.Guarded b) (step : Step)
    (helsewhere : ∀ host, step = .elsewhere host → b.StandsAt host) :
    Upholds b (step.Escapes b t sc) sc (step.run t sc) := by
  have hquiet {after : Scene} (hsame : after.host = sc.host)
      (hsession : sc.session.Quiet after.session) : Upholds b False sc after :=
    upholds_of_quiet h not_false ⟨congrArg Host.bans hsame, hsession⟩
  cases step with
  | line l => exact upholds_line hactive hlasting h l
  | answer => exact upholds_answer hactive hlasting h
  | ban id author reason duration => exact upholds_ban h id author reason duration
  | elsewhere host =>
      exact ⟨⟨h.checks, helsewhere host rfl⟩, fun hbefore => iff_of_true hbefore not_false⟩
  | hear | frame | startConnect => exact hquiet rfl (.of_eq rfl rfl)
  | banner line => exact hquiet rfl (sc.session.quiet_receiveBanner t line)
  | followMap => exact hquiet rfl sc.session.quiet_syncTravelling
  | pollConnect dial => exact hquiet rfl (sc.session.quiet_pollConnect t dial)
  | lose fault => exact hquiet rfl (sc.session.quiet_fail t fault)
  | timers => exact hquiet rfl (sc.session.quiet_runTimers t)
  | drain out => exact hquiet rfl (sc.session.quiet_drainOutbound t out)
  | names nameOf => exact hquiet rfl (sc.session.quiet_settleNames nameOf)
  | act a => exact hquiet rfl (sc.session.quiet_act t a)
  | flush => exact upholds_of_quiet h not_false (sc.quiet_flush t)
  | tellOther l => exact upholds_of_quiet h not_false (sc.quiet_deliverOther t l)
  | tellRaw text => exact upholds_of_quiet h not_false (sc.quiet_deliverRaw t text)

end Steps

theorem guarded_course (h : sc.Guarded b) (hactive : b.isActive) {steps : List (Moment × Step)}
    (hlasting : ∀ turn ∈ steps, b.isExpired turn.1.now.unix = false)
    (helsewhere : ∀ turn ∈ steps, ∀ host, turn.2 = .elsewhere host → b.StandsAt host) :
    (sc.course steps).Guarded b := by
  induction steps generalizing sc with
  | nil => exact h
  | cons turn steps ih =>
      obtain ⟨hlasting, hlastings⟩ := List.forall_mem_cons.1 hlasting
      obtain ⟨helsewhere, helsewheres⟩ := List.forall_mem_cons.1 helsewhere
      exact ih (upholds_run hactive hlasting h turn.2 helsewhere).guarded hlastings helsewheres

/-- All that a turn does is made of steps. Over any steps during which a ban stands and does not run
out, from a session without players on: ids stay distinct and whoever the ban concerns carries its
mark, at all times, exactly if nobody ever gets past the check. -/
theorem bans_are_marked_iff_nobody_escapes (hactive : b.isActive)
    (hchecks : sc.session.settings.banCheck) (hstands : b.StandsAt sc.host)
    (hnobody : sc.session.model.players = []) {steps : List (Moment × Step)}
    (hlasting : ∀ turn ∈ steps, b.isExpired turn.1.now.unix = false)
    (helsewhere : ∀ turn ∈ steps, ∀ host, turn.2 = .elsewhere host → b.StandsAt host) :
    (∀ t dial arrivals out (sc : Scene), Becomes t sc (sc.turn t dial arrivals out)) ∧
      ((∀ before, before <+: steps → Screened b (sc.course before).session.model) ↔
        ∀ before turn, before ++ [turn] <+: steps →
          ¬ turn.2.Escapes b turn.1 (sc.course before)) := by
  refine ⟨fun _ => becomes_turn, Match.holds_throughout_iff
    (fun sc : Scene => Screened b sc.session.model)
    (fun sc (turn : Moment × Step) => turn.2.Escapes b turn.1 sc)
    (Match.screened_of_nobody hnobody) fun before turn hbefore hscreened => ?_⟩
  have hmem : ∀ next ∈ before ++ [turn], next ∈ steps := fun _ hnext => hbefore.subset hnext
  have hguarded : (sc.course before).Guarded b :=
    guarded_course ⟨hchecks, hstands⟩ hactive
      (fun next hnext => hlasting next (hmem next (List.mem_append_left _ hnext)))
      (fun next hnext => helsewhere next (hmem next (List.mem_append_left _ hnext)))
  have hturn := hmem turn (List.mem_append_right _ (List.mem_singleton_self turn))
  exact (upholds_run hactive (hlasting turn hturn) hguarded turn.2 (helsewhere turn hturn)).screened
    hscreened

theorem bans_are_marked_iff_nobody_escapes_as_one_joins :
    let b : Ban.Entry := { issued := 1, account := 16 }
    let book : Ban.Book := ⟨Store.handleOf [b], [b]⟩
    let shelf : Store.Shelf := { node := .file (Store.contentOf [b]) }
    let sc : Scene := {
      host := { bans := some (book, shelf) }, session := .idle { name := "a" } ⟨0⟩ }
    let joining : Wire.Line := {
      kind := .log
      fields := ["PLAYER", "Enter;", "GDI,7,Carol", "from", "10.0.0.7", "steamid", "0x10"]
      delimiter := 2 }
    let steps : List (Moment × Step) := [({ now := ⟨5000⟩ }, .line joining)]
    b.StandsAt sc.host ∧ (∃ p ∈ (sc.course steps).session.model.players, b.concerns p) ∧
      ∀ before, before <+: steps → Screened b (sc.course before).session.model := by
  intro b book shelf sc joining steps
  have hopen : Ban.Book.openAt 5 shelf = (.ok book, shelf) := by decide +kernel
  have hstands : b.StandsAt sc.host :=
    Host.standsAt_of_openAt hopen ⟨rfl, _, rfl⟩ (List.mem_singleton_self b) rfl
  obtain ⟨-, hall⟩ := @bans_are_marked_iff_nobody_escapes b sc (by decide) rfl hstands rfl steps
    (by decide) (by simp [steps])
  refine ⟨hstands, by decide +kernel, hall.2 fun before turn hbefore hescapes => ?_⟩
  -- the only line finds nobody whose id it could give away
  have hlength := hbefore.length_le
  obtain rfl : before = [] := List.eq_nil_of_length_eq_zero (by simpa [steps] using hlength)
  obtain rfl : turn = ({ now := ⟨5000⟩ }, .line joining) := by simpa [steps] using hbefore
  obtain ⟨-, hclash⟩ := hescapes
  have hnobody : (sc.course []).session.model.ids = [] := rfl
  generalize GameLog.classify joining = e at hclash
  cases e <;> simp [Match.Clashes, hnobody] at hclash

/-- The first line names a player who is not known. The answer to `clientvarlist` then tells of an
account that is banned. -/
theorem one_who_was_there_before_is_overlooked :
    let b : Ban.Entry := { issued := 1, account := 16 }
    let book : Ban.Book := ⟨Store.handleOf [b], [b]⟩
    let shelf : Store.Shelf := { node := .file (Store.contentOf [b]) }
    let sc : Scene := {
      host := { bans := some (book, shelf) }, session := .idle { name := "a" } ⟨0⟩ }
    let line (kind : Wire.LineKind) (fields : List String) : Moment × Step :=
      ({ now := ⟨5000⟩ }, .line { kind, fields, delimiter := 2 })
    let steps := [
      line .log ["CHAT", "Say;", "GDI,7,Carol", "said:", "hello"],
      line .echo ["clientvarlist ID IP HWID Steam"],
      line .response ["ID", "IP", "HWID", "Steam"],
      line .response ["7", "10.0.0.7", "h", "0x10"],
      ({ now := ⟨5000⟩ }, .answer)]
    b.isActive ∧ sc.session.settings.banCheck ∧ b.StandsAt sc.host ∧
      sc.session.model.players = [] ∧ (∀ turn ∈ steps, b.isExpired turn.1.now.unix = false) ∧
      ∃ p ∈ (sc.course steps).session.model.players,
        b.concerns p ∧ ¬ p.banFlags.contains b.flags.kinds := by
  intro b book shelf sc line steps
  have hopen : Ban.Book.openAt 5 shelf = (.ok book, shelf) := by decide +kernel
  have hstands : b.StandsAt sc.host :=
    Host.standsAt_of_openAt hopen ⟨rfl, _, rfl⟩ (List.mem_singleton_self b) rfl
  exact ⟨by decide, rfl, hstands, rfl, by decide, by decide +kernel⟩

end Scene

end RemoteConsole
