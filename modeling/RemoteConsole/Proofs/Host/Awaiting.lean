import RemoteConsole.Proofs.Host.Answers
import RemoteConsole.Proofs.Host.Serving
import RemoteConsole.Proofs.Host.Staying

namespace RemoteConsole

open Match (Table)
open Wire (Line Bytes)

namespace Session

structure Continues (s after : Session) : Prop where
  delimiter : after.delimiter = s.delimiter
  response : after.response = s.response

def Awaits (delimiter : Option UInt8) (coming : Option Table) (s : Session) : Prop :=
  s.delimiter = delimiter ∧ s.response = coming ∨ s.delimiter = none ∧ s.response = none

section Relations

variable {s after : Session} {delimiter : Option UInt8} {coming : Option Table}

theorem Continues.refl (s : Session) : s.Continues s :=
  ⟨rfl, rfl⟩

theorem Tends.continues (h : s.Tends after) : s.Continues after := by
  rw [h.same]
  exact ⟨rfl, rfl⟩

theorem Speaks.continues (h : s.Speaks after) : s.Continues after :=
  h.tends.continues

theorem Continues.awaits (h : s.Continues after) : after.Awaits s.delimiter s.response :=
  .inl ⟨h.delimiter, h.response⟩

theorem Parts.awaits (h : s.Parts after) : after.Awaits delimiter coming := by
  obtain ⟨reason, hsame⟩ := h.same
  rw [hsame]
  exact .inr ⟨rfl, rfl⟩

namespace Awaits

variable (h : s.Awaits delimiter coming)

include h

theorem continues (hafter : s.Continues after) : after.Awaits delimiter coming := by
  rw [Awaits, hafter.delimiter, hafter.response]
  exact h

theorem either (hafter : s.Speaks after ∨ s.Parts after) : after.Awaits delimiter coming := by
  rcases hafter with hspeaks | hparts
  · exact h.continues hspeaks.continues
  · exact hparts.awaits

end Awaits

end Relations

variable (s : Session) (t : Moment)

theorem continues_receiveAuthenticated (line : Line) :
    s.Continues (s.receiveAuthenticated t.now line) := by
  have hasked (base : Session) (commands : List String) :
      base.Speaks ((base.request t.now .subscribe).2.sendAll t.now commands) :=
    (base.request_speaks t.now .subscribe).trans (sendAll_speaks _ t.now commands)
  unfold receiveAuthenticated
  split
  · exact .refl s
  · obtain ⟨hdelimiter, hresponse⟩ := (hasked
      { s with
        user := line.field 0, attempts := 0, stage := .subscribing, subscribedAt := some t.now }
      [rosterCommand, "binfo", "gameinfo", "rotation", ping initToken]).continues
    exact ⟨hdelimiter, hresponse⟩

theorem awaits_receiveError (line : Line) :
    (s.receiveError t line).Awaits s.delimiter s.response := by
  unfold receiveError
  dsimp only
  split
  · exact (s.fail_parts t _).awaits
  · exact .inl ⟨rfl, rfl⟩

theorem continues_receivePong (token : String) : s.Continues (s.receivePong t.now token) := by
  unfold receivePong
  dsimp only
  split
  · exact ⟨rfl, rfl⟩
  · exact ⟨rfl, rfl⟩

theorem continues_syncTravelling : s.Continues s.syncTravelling := by
  unfold syncTravelling
  split
  · exact ⟨rfl, rfl⟩
  · exact ⟨rfl, rfl⟩
  · exact .refl s

theorem awaits_pollConnect (dial : Dial) :
    (s.pollConnect t dial).Awaits s.delimiter s.response := by
  unfold pollConnect
  split
  · exact .inl ⟨rfl, rfl⟩
  · cases dial with
    | underway | opened => exact .inl ⟨rfl, rfl⟩
    | failed reason => exact (fail_parts _ t _).awaits

theorem awaits_drainOutbound (out : Outflow) :
    (s.drainOutbound t out).Awaits s.delimiter s.response := by
  rcases s.drainOutbound_cases t out with ⟨hsame, -⟩ | hparts
  · rw [hsame]
    exact .inl ⟨rfl, rfl⟩
  · exact hparts.awaits

end Session

namespace Scene

section Events

variable (t : Moment) (sc : Scene)

def applyAnswer? : Option Table → Scene
  | none => sc
  | some table =>
    (sc.onSession ({ · with response := none })).handleAll t
      (sc.session.model.applyTable t.now table)

theorem applyAnswer?_some (table : Table) :
    sc.applyAnswer? t (some table) = (sc.onSession ({ · with response := none })).handleAll t
      (sc.session.model.applyTable t.now table) := by
  rw [applyAnswer?]

theorem finishResponse_eq : sc.finishResponse t = sc.applyAnswer? t sc.session.response := by
  cases h : sc.session.response with
  | none => simp only [finishResponse, h, applyAnswer?]
  | some table => rw [applyAnswer?_some, sc.finishResponse_of_some t h]

theorem delimiter_finishResponse :
    (sc.finishResponse t).session.delimiter = sc.session.delimiter := by
  cases h : sc.session.response with
  | none => simp only [finishResponse, h]
  | some table =>
      rw [sc.finishResponse_of_some t h, (tends_handleAll t _ _).continues.delimiter]
      rfl

theorem response_finishResponse : (sc.finishResponse t).session.response = none := by
  cases h : sc.session.response with
  | none => simp only [finishResponse, h]
  | some table =>
      rw [sc.finishResponse_of_some t h, (tends_handleAll t _ _).continues.response]
      rfl

theorem awaits_receive (line : Line) :
    (sc.receive t line).2.session.Awaits sc.session.delimiter
      (line.continues sc.session.response) := by
  unfold receive Line.continues
  cases hkind : line.kind with
  | version | other => exact .inl ⟨rfl, rfl⟩
  | authenticated => exact (sc.session.continues_receiveAuthenticated t line).awaits
  | error => exact sc.session.awaits_receiveError t line
  | echo => exact .inl ⟨rfl, rfl⟩
  | response =>
      change (sc.session.receiveResponse t.now line).Awaits _ _
      unfold Session.receiveResponse
      dsimp only
      split
      · exact (sc.session.continues_receivePong t _).awaits
      · exact .inl ⟨rfl, rfl⟩
  | log =>
      dsimp only
      split
      · exact (sc.tends_handleAll t _).continues.awaits
      · exact .inl ⟨rfl, rfl⟩

end Events

section Lines

variable {t : Moment} {sc : Scene} {delimiter : Option UInt8} {coming : Option Table}

section Observers

variable (h : sc.session.Awaits delimiter coming)

include h

theorem awaits_flush : (sc.flush t).session.Awaits delimiter coming :=
  flush_keeps (any_answer_keeps fun s a hs => hs.either (s.act_cases t a)) sc.host.answers_any
    (fun _ _ _ _ hs => hs) h

theorem awaits_deliverOther (line : Line) :
    (sc.deliverOther t line).session.Awaits delimiter coming :=
  deliverOther_keeps (any_answer_keeps fun s a hs => hs.either (s.act_cases t a))
    sc.host.answers_any line h

theorem awaits_deliverRaw (text : String) :
    (sc.deliverRaw t text).session.Awaits delimiter coming :=
  deliverRaw_keeps (any_answer_keeps fun s a hs => hs.either (s.act_cases t a))
    sc.host.answers_any text h

end Observers

/-- What becomes of a line behind the answer that it ends. -/
def takeIn (t : Moment) (sc : Scene) (line : Line) : Scene :=
  let (recognised, sc) := sc.receive t line
  let sc := (sc.onSession (·.syncTravelling)).flush t
  let sc := if recognised then sc else sc.deliverOther t line
  sc.deliverRaw t line.raw

theorem awaits_takeIn (line : Line) :
    (sc.takeIn t line).session.Awaits sc.session.delimiter
      (line.continues sc.session.response) := by
  have hreceived := sc.awaits_receive t line
  unfold takeIn
  generalize sc.receive t line = received at hreceived
  obtain ⟨recognised, after⟩ := received
  have hsynced : (after.onSession (·.syncTravelling)).session.Awaits sc.session.delimiter
      (line.continues sc.session.response) :=
    hreceived.continues after.session.continues_syncTravelling
  have hflushed := awaits_flush (t := t) hsynced
  dsimp only
  refine awaits_deliverRaw ?_ line.raw
  split
  · exact hflushed
  · exact awaits_deliverOther hflushed line

theorem processFields_eq_takeIn (t : Moment) (sc : Scene) (line : Line) :
    sc.processFields t line =
      (if line.kind = .response then sc else sc.finishResponse t).takeIn t line :=
  rfl

section Parsed

variable {d : UInt8} {bytes : Bytes} {line : Line} (hdelimiter : sc.session.delimiter = some d)
  (hline : Line.parse? d bytes = some line)

include hdelimiter hline

theorem processLine_of_parsed : sc.processLine t bytes =
    (sc.applyAnswer? t (if line.kind = .response then none else sc.session.response)).takeIn t
      line := by
  simp only [processLine, hdelimiter, hline, processFields_eq_takeIn]
  by_cases hrow : line.kind = .response
  · rw [if_pos hrow, if_pos hrow, applyAnswer?]
  · rw [if_neg hrow, if_neg hrow, finishResponse_eq]

theorem awaits_processLine : (sc.processLine t bytes).session.Awaits (some d)
    (line.continues (if line.kind = .response then sc.session.response else none)) := by
  simp only [processLine, hdelimiter, hline, processFields_eq_takeIn]
  by_cases hrow : line.kind = .response
  · rw [if_pos hrow, if_pos hrow, ← hdelimiter]
    exact awaits_takeIn line
  · rw [if_neg hrow, if_neg hrow, ← hdelimiter, ← sc.delimiter_finishResponse t,
      ← sc.response_finishResponse t]
    exact awaits_takeIn line

end Parsed

theorem response_processLine (hdelimiter : sc.session.delimiter = none)
    (hresponse : sc.session.response = none) (bytes : Bytes) :
    (sc.processLine t bytes).session.response = none := by
  have hbanner : (sc.session.receiveBanner t bytes).response = none := by
    rcases sc.session.receiveBanner_cases t bytes with ⟨_, _, _, hspeaks⟩ | ⟨hparts, -⟩
    · exact hspeaks.continues.response.trans hresponse
    · obtain ⟨reason, hsame⟩ := hparts.same
      rw [hsame]
      rfl
  have hread : (sc.onSession (·.receiveBanner t bytes)).session.Awaits
      (sc.session.receiveBanner t bytes).delimiter none := .inl ⟨rfl, hbanner⟩
  have hheard := awaits_deliverRaw (t := t) (awaits_flush (t := t) hread) (Text.Utf8.decode bytes)
  simp only [processLine, hdelimiter]
  exact hheard.elim And.right And.right

theorem awaits_run {step : Step} (h : step.IsAside) :
    (step.run t sc).session.Awaits sc.session.delimiter sc.session.response := by
  have hstill : sc.session.Awaits sc.session.delimiter sc.session.response := .inl ⟨rfl, rfl⟩
  cases step with
  | banner | answer | line => exact h.elim
  | hear | frame | startConnect | names => exact .inl ⟨rfl, rfl⟩
  | followMap => exact (sc.session.continues_syncTravelling).awaits
  | flush => exact awaits_flush hstill
  | tellOther line => exact awaits_deliverOther hstill line
  | tellRaw text => exact awaits_deliverRaw hstill text
  | pollConnect dial => exact sc.session.awaits_pollConnect t dial
  | lose fault => exact (sc.session.fail_parts t fault).awaits
  | timers => exact hstill.either (sc.session.runTimers_cases t)
  | drain out => exact sc.session.awaits_drainOutbound t out
  | act a => exact hstill.either (sc.session.act_cases t a)
  | ban id author reason duration =>
      obtain ⟨model, hspeaks⟩ := sc.banPlayer_speaks t id author reason duration
      exact hspeaks.continues.awaits
  | elsewhere host => exact hstill

end Lines

end Scene

end RemoteConsole
