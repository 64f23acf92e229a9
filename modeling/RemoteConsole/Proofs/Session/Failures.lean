import Mathlib.Algebra.Group.Nat.Defs
import Mathlib.Order.MinMax
import RemoteConsole.Proofs.Session.Conduct

namespace RemoteConsole

open Wire (Line)

/-- The wait after so many failures in a row, without its random part. -/
def ServerSettings.delay (settings : ServerSettings) (failures : Nat) : Millis :=
  min (settings.reconnectDelay * 2 ^ min (failures - 1) 16) settings.longestReconnectDelay

theorem ServerSettings.delay_mono (settings : ServerSettings) :
    Monotone settings.delay := by
  intro failures more hmore
  unfold delay
  have hpower : 2 ^ min (failures - 1) 16 ≤ 2 ^ min (more - 1) 16 :=
    Nat.pow_le_pow_right (by decide) (by omega)
  exact min_le_min_right _ (Nat.mul_le_mul_left _ hpower)

namespace Session

/-- Nothing has become of the connection: the count of failures stands, and so do the plan for the
next attempt and whatever there is of a connection. No handshake has begun. -/
structure Works (s after : Session) : Prop where
  settings : after.settings = s.settings
  attempts : after.attempts = s.attempts
  terminated : after.terminated = s.terminated
  nextAttempt : after.nextAttempt = s.nextAttempt
  socket : after.socket = s.socket
  dialing : after.dialing = s.dialing
  handshaking : after.stage = .handshaking → s.stage = .handshaking

/-- What can happen to a session. -/
inductive Move where
  | fail (t : Moment) (f : Fault)
  | disconnect (t : Moment) (reason : String)
  | dial (now : Instant)
  | opened (now : Instant)
  | login (now : Instant) (line : Line)
  | work (after : Session)

namespace Move

/-- A session that is neither connected nor about to be does not fail, unless for good. An attempt
is made when its time has come, unless the session has ended. -/
def Lawful (s : Session) : Move → Prop
  | fail _ f => f.isTerminal ∨ s.socket ∨ s.dialing
  | disconnect .. => True
  | dial now => s.terminated = none ∧ s.stage = .disconnected ∧ s.isDue now
  | opened _ => s.dialing
  | login .. => s.stage = .handshaking
  | work after => s.Works after

def At (t : Moment) : Move → Prop
  | fail time _ | disconnect time _ => time = t
  | dial now | opened now | login now _ => now = t.now
  | work _ => True

def run (s : Session) : Move → Session
  | fail t f => s.fail t f
  | disconnect t reason => s.disconnect t reason
  | dial _ => s.startConnect
  | opened now => s.opened now
  | login now line => s.receiveAuthenticated now line
  | work after => after

/-- One more failure counts, unless it ends the session for good by itself; a login makes up for all
of them. -/
def count (failures : Nat) : Move → Nat
  | fail _ f => if f.isTerminal then failures else failures + 1
  | disconnect .. => failures + 1
  | login .. => 0
  | dial _ | opened _ | work _ => failures

def AllLawful (s : Session) : List Move → Prop
  | [] => True
  | move :: moves => move.Lawful s ∧ AllLawful (move.run s) moves

def runAll (s : Session) (moves : List Move) : Session :=
  moves.foldl run s

/-- The failures since the last login. -/
def failures (moves : List Move) : Nat :=
  moves.foldl count 0

variable {s : Session} {moves more : List Move}

theorem allLawful_append :
    AllLawful s (moves ++ more) ↔ AllLawful s moves ∧ AllLawful (runAll s moves) more := by
  induction moves generalizing s with
  | nil => simp [AllLawful, runAll]
  | cons move moves ih =>
      rw [List.cons_append, AllLawful, AllLawful, ih, and_assoc]
      rfl

theorem runAll_append : runAll s (moves ++ more) = runAll (runAll s moves) more :=
  List.foldl_append

end Move

/-- Within a moment, moves that can happen lead from one state to the other. -/
def Reaches (t : Moment) (s after : Session) : Prop :=
  ∃ moves, (∀ move ∈ moves, Move.At t move) ∧ Move.AllLawful s moves ∧ Move.runAll s moves = after

section Reaching

variable {t : Moment} {s between after : Session}

theorem Reaches.trans (h : s.Reaches t between) (h' : between.Reaches t after) :
    s.Reaches t after := by
  obtain ⟨moves, hat, hlawful, rfl⟩ := h
  obtain ⟨more, hat', hlawful', rfl⟩ := h'
  refine ⟨moves ++ more, ?_, Move.allLawful_append.2 ⟨hlawful, hlawful'⟩, Move.runAll_append⟩
  exact fun move hmove => (List.mem_append.1 hmove).elim (hat move) (hat' move)

theorem Reaches.one (move : Move) (hat : move.At t) (h : move.Lawful s) :
    s.Reaches t (move.run s) :=
  ⟨[move], fun _ hmove => List.mem_singleton.1 hmove ▸ hat, ⟨h, trivial⟩, rfl⟩

theorem Works.reaches (h : s.Works after) : s.Reaches t after :=
  .one (.work after) trivial h

theorem Works.refl (s : Session) : s.Works s :=
  ⟨rfl, rfl, rfl, rfl, rfl, rfl, id⟩

theorem Reaches.refl (s : Session) : s.Reaches t s :=
  (Works.refl s).reaches

theorem Tends.works (h : s.Tends after) : s.Works after := by
  rw [h.same]
  exact ⟨rfl, rfl, rfl, rfl, rfl, rfl, id⟩

theorem Speaks.works (h : s.Speaks after) : s.Works after :=
  h.tends.works

end Reaching

variable (t : Moment) (s : Session)

theorem reaches_fail {f : Fault} (h : f.isTerminal ∨ s.socket ∨ s.dialing) :
    s.Reaches t (s.fail t f) :=
  .one (.fail t f) rfl h

theorem reaches_act {a : Action} (h : ∀ reason, a ≠ .terminate reason) :
    s.Reaches t (s.act t a).2 := by
  cases a with
  | disconnect reason => exact .one (.disconnect t reason) rfl trivial
  | terminate reason => exact absurd rfl (h reason)
  | _ => exact (s.act_speaks rfl t).works.reaches

theorem reaches_startConnect (hgoes : s.terminated = none) (hstage : s.stage = .disconnected)
    (hdue : s.isDue t.now) : s.Reaches t s.startConnect :=
  .one (.dial t.now) rfl ⟨hgoes, hstage, hdue⟩

theorem reaches_pollConnect (dial : Dial) : s.Reaches t (s.pollConnect t dial) := by
  unfold pollConnect
  split
  · exact Works.reaches ⟨rfl, rfl, rfl, rfl, rfl, rfl, nofun⟩
  · rename_i hdialing
    have hdialing : s.dialing = true := by simpa using hdialing
    cases dial with
    | underway => exact .refl s
    | opened => exact .one (.opened t.now) rfl hdialing
    | failed reason => exact s.reaches_fail t (.inr (.inr hdialing))

theorem reaches_keepalive (hsocket : s.socket = true) : s.Reaches t (s.keepalive t) := by
  unfold keepalive
  split
  · split
    · exact s.reaches_fail t (.inr (.inl hsocket))
    · exact .refl s
  · dsimp only
    split
    · have hsent := (s.request_speaks t.now (.execute (ping keepaliveToken))).works
      split
      · exact hsent.reaches.trans (Works.reaches ⟨rfl, rfl, rfl, rfl, rfl, rfl, id⟩)
      · exact hsent.reaches
    · exact .refl s

theorem works_refreshRoster (now : Instant) : s.Works (s.refreshRoster now) := by
  unfold refreshRoster
  split
  · have hasked := (sendAll_speaks { s with lastRoster := now } now
      [rosterCommand, ping tableEndToken]).same
    rw [hasked]
    exact ⟨rfl, rfl, rfl, rfl, rfl, rfl, id⟩
  · exact .refl s

theorem reaches_runTimers (hsocket : s.socket = true) : s.Reaches t (s.runTimers t) := by
  have hfails (f : Fault) : s.Reaches t (s.fail t f) := s.reaches_fail t (.inr (.inl hsocket))
  unfold runTimers
  dsimp only
  split
  · split
    · exact hfails _
    · exact .refl s
  · split
    · exact hfails _
    · refine (s.reaches_keepalive t hsocket).trans ?_
      split
      · have hroster := works_refreshRoster (s.keepalive t) t.now
        have hplanned := endPlannedMatch_speaks ((s.keepalive t).refreshRoster t.now) t.now
        have hempty := endEmptyMatch_speaks
          (((s.keepalive t).refreshRoster t.now).endPlannedMatch t.now) t.now
        exact hroster.reaches.trans (hplanned.works.reaches.trans hempty.works.reaches)
      · exact .refl _

theorem reaches_drainOutbound (out : Outflow) : s.Reaches t (s.drainOutbound t out) := by
  unfold drainOutbound
  split
  · exact .refl s
  · split
    · exact Works.reaches ⟨rfl, rfl, rfl, rfl, rfl, rfl, id⟩
    · rename_i hsocket
      have hsocket : s.socket = true := by simpa using hsocket
      cases out with
      | took bytes => exact Works.reaches ⟨rfl, rfl, rfl, rfl, rfl, rfl, id⟩
      | ended => exact s.reaches_fail t (.inr (.inl hsocket))
      | failed reason => exact s.reaches_fail t (.inr (.inl hsocket))

theorem reaches_receiveBanner (line : Wire.Bytes) : s.Reaches t (s.receiveBanner t line) := by
  unfold receiveBanner
  split
  · exact s.reaches_fail t (.inl rfl)
  · split
    · exact s.reaches_fail t (.inl rfl)
    · rename_i banner _ _ delimiter _
      have hnoted : s.Works { s with
          delimiter := some delimiter, protocol := banner.protocol, gameVersion := banner.game } :=
        ⟨rfl, rfl, rfl, rfl, rfl, rfl, id⟩
      exact hnoted.reaches.trans (request_speaks _ t.now _).works.reaches

theorem reaches_receiveAuthenticated (line : Line) :
    s.Reaches t (s.receiveAuthenticated t.now line) := by
  by_cases hstage : s.stage = .handshaking
  · exact .one (.login t.now line) rfl hstage
  · rw [receiveAuthenticated, if_pos hstage]
    exact .refl s

theorem reaches_receiveError (line : Line) : s.Reaches t (s.receiveError t line) := by
  unfold receiveError
  dsimp only
  split
  · exact s.reaches_fail t (.inl rfl)
  · exact Works.reaches ⟨rfl, rfl, rfl, rfl, rfl, rfl, id⟩

theorem works_receiveResponse (now : Instant) (line : Line) :
    s.Works (s.receiveResponse now line) := by
  unfold receiveResponse receivePong
  dsimp only
  split
  · split
    · exact ⟨rfl, rfl, rfl, rfl, rfl, rfl, nofun⟩
    · exact ⟨rfl, rfl, rfl, rfl, rfl, rfl, id⟩
  · exact ⟨rfl, rfl, rfl, rfl, rfl, rfl, id⟩

theorem works_syncTravelling : s.Works s.syncTravelling := by
  unfold syncTravelling
  split
  · exact ⟨rfl, rfl, rfl, rfl, rfl, rfl, nofun⟩
  · exact ⟨rfl, rfl, rfl, rfl, rfl, rfl, nofun⟩
  · exact .refl s

/-- So many failures there have been since the last login. -/
structure Counted (settings : ServerSettings) (failures : Nat) (s : Session) : Prop where
  same : s.settings = settings
  attempts : s.attempts.toNat = min failures (UInt32.size - 1)
  going : s.terminated = none →
    settings.maxAttempts = 0 ∨ failures < settings.maxAttempts.toNat
  ended : s.terminated.isSome → s.socket = false ∧ s.dialing = false

structure Fails (settings : ServerSettings) (failures : Nat) (t : Moment) (s after : Session) :
    Prop where
  wait : s.backoff = settings.delay failures
  ends : s.terminated = none → (after.terminated.isSome ↔
    settings.maxAttempts ≠ 0 ∧ failures = settings.maxAttempts.toNat)
  plan : after.terminated = none →
    after.nextAttempt = some (t.now.after (settings.delay failures + t.jitter))

def Move.Takes (settings : ServerSettings) (failures : Nat) (s : Session) : Move → Prop
  | fail t f =>
    if f.isTerminal then (s.fail t f).terminated = some f.message
    else Fails settings (failures + 1) t s (s.fail t f)
  | disconnect t reason => Fails settings (failures + 1) t s (s.disconnect t reason)
  | move => (move.run s).terminated = s.terminated

namespace Counted

variable {settings : ServerSettings} {failures : Nat} {s : Session}

theorem of_none (hsame : s.settings = settings) (hattempts : s.attempts = 0)
    (hended : s.terminated.isSome → s.socket = false ∧ s.dialing = false) :
    Counted settings 0 s where
  same := hsame
  attempts := by
    rw [hattempts]
    rfl
  going _ := by
    rw [← UInt32.toNat_inj, UInt32.toNat_zero]
    omega
  ended := hended

theorem backoff (h : Counted settings failures s) : s.backoff = settings.delay (failures + 1) := by
  have hdoublings : min s.attempts.toNat doublings = min failures 16 := by
    rw [h.attempts, doublings]
    simp only [UInt32.size]
    omega
  rw [Session.backoff, ServerSettings.delay, hdoublings, h.same, Nat.shiftLeft_eq,
    Nat.add_sub_cancel]

theorem saturated (h : Counted settings failures s) :
    (saturate32 (s.attempts.toNat + 1)).toNat = min (failures + 1) (UInt32.size - 1) := by
  rw [toNat_saturate32, h.attempts]
  simp only [UInt32.size]
  omega

theorem limit (h : Counted settings failures s) :
    s.settings.maxAttempts ≤ saturate32 (s.attempts.toNat + 1) ↔
      settings.maxAttempts.toNat ≤ failures + 1 := by
  have hlimit := settings.maxAttempts.toNat_lt
  rw [h.same, UInt32.le_iff_toNat_le, h.saturated]
  simp only [UInt32.size]
  omega

theorem disconnect (h : Counted settings failures s) (t : Moment) (reason : String) :
    Counted settings (failures + 1) (s.disconnect t reason) ∧
      Fails settings (failures + 1) t s (s.disconnect t reason) := by
  have hwait := h.backoff
  unfold Session.disconnect retry
  dsimp only
  split
  · rename_i hgives
    obtain ⟨hsome, hmost⟩ : s.settings.maxAttempts ≠ 0 ∧ _ := hgives
    rw [h.same] at hsome
    have hmost := h.limit.1 hmost
    refine ⟨⟨h.same, h.saturated, nofun, fun _ => ⟨rfl, rfl⟩⟩, hwait, fun hopen => ?_, nofun⟩
    have hbefore := (h.going hopen).resolve_left hsome
    exact iff_of_true rfl ⟨hsome, by omega⟩
  · rename_i hgoes
    have hgoes : ¬ (settings.maxAttempts ≠ 0 ∧ settings.maxAttempts.toNat ≤ failures + 1) :=
      fun hgives => hgoes ⟨h.same.symm ▸ hgives.1, h.limit.2 hgives.2⟩
    refine ⟨⟨h.same, h.saturated, fun _ => ?_, fun _ => ⟨rfl, rfl⟩⟩, hwait, fun hopen => ?_,
      fun _ => congrArg (fun wait => some (t.now.after (wait + t.jitter))) hwait⟩
    · rw [or_iff_not_imp_left]
      exact fun hsome => Nat.lt_of_not_le fun hmost => hgoes ⟨hsome, hmost⟩
    · refine iff_of_false ?_ fun hlast => hgoes ⟨hlast.1, Nat.le_of_eq hlast.2.symm⟩
      change ¬ s.terminated.isSome = true
      simp [hopen]

theorem terminate (h : Counted settings failures s) (reason : String) :
    Counted settings failures (s.terminate reason) :=
  ⟨h.same, h.attempts, nofun, fun _ => ⟨rfl, rfl⟩⟩

theorem works {after : Session} (h : Counted settings failures s) (hworks : s.Works after) :
    Counted settings failures after where
  same := hworks.settings.trans h.same
  attempts := by rw [hworks.attempts, h.attempts]
  going hopen := h.going (hworks.terminated.symm.trans hopen)
  ended hended := by
    rw [hworks.socket, hworks.dialing]
    exact h.ended (hworks.terminated ▸ hended)

theorem login (h : Counted settings failures s) (hstage : s.stage = .handshaking) (now : Instant)
    (line : Line) : Counted settings 0 (s.receiveAuthenticated now line) ∧
      (s.receiveAuthenticated now line).terminated = s.terminated := by
  generalize hbase : ({ s with
    user := line.field 0, attempts := 0, stage := .subscribing, subscribedAt := some now } :
      Session) = base
  have hnone : Counted settings 0 base := by
    rw [← hbase]
    exact .of_none h.same rfl h.ended
  have hasked : base.Works ((base.request now .subscribe).2.sendAll now
      [rosterCommand, "binfo", "gameinfo", "rotation", ping initToken]) :=
    ((base.request_speaks now .subscribe).trans (sendAll_speaks _ now _)).works
  have hended : base.terminated = s.terminated := by
    rw [← hbase]
  rw [receiveAuthenticated, if_neg (by simp [hstage])]
  dsimp only
  rw [hbase]
  have htold := hnone.works hasked
  exact ⟨⟨htold.same, htold.attempts, htold.going, htold.ended⟩, hasked.terminated.trans hended⟩

theorem run (h : Counted settings failures s) {move : Move} (hlawful : move.Lawful s) :
    Counted settings (move.count failures) (move.run s) ∧ move.Takes settings failures s := by
  cases move with
  | fail t f =>
      by_cases hterminal : f.isTerminal
      · have hends : s.fail t f = s.terminate f.message := by rw [Session.fail, if_pos hterminal]
        simp only [Move.count, Move.run, Move.Takes, if_pos hterminal, hends]
        exact ⟨h.terminate f.message, rfl⟩
      · have hparts : s.fail t f = s.disconnect t f.message := by
          rw [Session.fail, if_neg hterminal]
        simp only [Move.count, Move.run, Move.Takes, if_neg hterminal, hparts]
        exact h.disconnect t f.message
  | disconnect t reason => exact h.disconnect t reason
  | dial now =>
      have hgoes : s.terminated = none := hlawful.1
      refine ⟨⟨h.same, h.attempts, h.going, fun hended => ?_⟩, rfl⟩
      change s.terminated.isSome at hended
      simp [hgoes] at hended
  | opened now =>
      have hdialing : s.dialing = true := hlawful
      refine ⟨⟨h.same, h.attempts, h.going, fun hended => ?_⟩, rfl⟩
      have hnone := (h.ended hended).2
      simp [hdialing] at hnone
  | login now line => exact h.login hlawful now line
  | work after => exact ⟨h.works hlawful, hlawful.terminated⟩

theorem runAll {moves : List Move} (h : Counted settings failures s)
    (hlawful : Move.AllLawful s moves) :
    Counted settings (moves.foldl Move.count failures) (Move.runAll s moves) := by
  induction moves generalizing s failures with
  | nil => exact h
  | cons move moves ih => exact ih (h.run hlawful.1).1 hlawful.2

theorem takes {before behind : List Move} {move : Move} (h : Counted settings 0 s)
    (hlawful : Move.AllLawful s (before ++ move :: behind)) :
    move.Takes settings (Move.failures before) (Move.runAll s before) := by
  obtain ⟨hbefore, hmove, -⟩ := Move.allLawful_append.1 hlawful
  exact ((h.runAll hbefore).run hmove).2

end Counted

end Session

end RemoteConsole
