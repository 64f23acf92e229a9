import RemoteConsole.Proofs.Host.Lines

namespace RemoteConsole

open Wire (Line Bytes)

/-- Nothing recognises the line: its kind is not known, it is a banner where there was one before,
or it tells of something that is not known. -/
def Wire.Line.isStrange (line : Line) : Bool :=
  match line.kind with
  | .version | .other _ => true
  | .log => !(GameLog.classify line).isKnown
  | .authenticated | .error | .echo | .response => false

def Session.farewell (s : Session) (reasons : List String) : List Event :=
  if s.socket then (reasons.take 1).map .disconnected else []

theorem Session.Speaks.queue {s after : Session} (h : s.Speaks after) : after.queue = s.queue := by
  rw [h.same]

theorem Session.queue_terminate (s : Session) (reason : String) :
    (s.terminate reason).queue = s.queue ++ s.farewell [reason] := by
  cases hsocket : s.socket <;> simp [terminate, close, farewell, hsocket]

theorem Session.queue_fail {f : Fault} (h : f.isTerminal) (s : Session) (t : Moment) :
    (s.fail t f).queue = s.queue ++ s.farewell [f.message] := by
  rw [fail, if_pos h, queue_terminate]

namespace Scene

variable (t : Moment) (sc : Scene)

def tidings (e : Event) : List Event :=
  let (kinds, e, _) := sc.attend t e
  e :: (e.player?.filter fun _ => !kinds.isEmpty).toList.map (.banMatched · kinds)

def tidingsOfAll : Scene → List Event → List Event
  | _, [] => []
  | sc, e :: events => sc.tidings t e ++ tidingsOfAll (sc.handle t e) events

def tidingsOf (r : Match.Model × List Event) : List Event :=
  tidingsOfAll t (sc.onSession ({ · with model := r.1 })) r.2

def answerTidings : List Event :=
  match sc.session.response with
  | none => []
  | some table =>
    let sc := sc.onSession ({ · with response := none })
    sc.tidingsOf t (sc.session.model.applyTable t.now table)

def lineTidings (line : Line) : List Event :=
  match line.kind with
  | .authenticated =>
    if sc.session.stage = .handshaking then [.authenticated (line.field 0)] else []
  | .error =>
    if sc.session.stage = .handshaking then
      sc.session.farewell [(Fault.authentication (line.joined " ")).message]
    else [.serverError (line.joined " ")]
  | .response =>
    if line.field 0 = "PONG" ∧ line.field 1 = Session.initToken ∧
      sc.session.stage = .subscribing then [.fullyConnected] else []
  | .log => sc.tidingsOf t (sc.session.model.apply t.now (GameLog.classify line))
  | .version | .echo | .other _ => []

/-- All that is told of a line. -/
def produced (line : Line) : List Event :=
  if line.kind = .response then sc.lineTidings t line
  else sc.answerTidings t ++ (sc.finishResponse t).lineTidings t line

/-- What is told of the first line, the banner: the end of the connection if it will not do. -/
def bannerTidings (line : Bytes) : List Event :=
  match Wire.Banner.parse? line with
  | none =>
    sc.session.farewell
      [(Fault.protocol ("malformed version banner: " ++ Text.Utf8.decode line)).message]
  | some banner =>
    if (Wire.delimiterOf? banner.protocol).isSome then []
    else sc.session.farewell [(Fault.protocol
      ("unsupported RCON protocol version " ++ toString banner.protocol.toNat)).message]

theorem queue_attend (e : Event) : (sc.attend t e).2.2.session.queue = sc.session.queue := by
  have hscreen (id : PlayerId) : (sc.screen t id).2.session.queue = sc.session.queue := by
    unfold screen
    split <;> rfl
  cases e with
  | playerJoin p | playerDiscovered p => exact hscreen p.id
  | matchEnd outcome =>
      change (sc.finishMatch t outcome).session.queue = sc.session.queue
      unfold finishMatch
      dsimp only
      split <;> rfl
  | mapStart map =>
      have hspeaks := sc.session.sendAll_speaks t.now
        ["binfo", "gameinfo", Session.ping Session.tableEndToken]
      exact hspeaks.queue
  | _ => rfl

theorem queue_handle (e : Event) :
    (sc.handle t e).session.queue = sc.session.queue ++ sc.tidings t e := by
  have hattend := sc.queue_attend t e
  unfold handle tidings
  generalize sc.attend t e = attended at hattend
  obtain ⟨kinds, e', sc'⟩ := attended
  dsimp only at hattend ⊢
  rw [← hattend]
  cases e'.player? with
  | none => rfl
  | some p =>
      by_cases hnone : kinds.isEmpty
      · simp [hnone, onSession, Session.emit]
      · have hkick (s : Session) : (s.kick t.now p.id banReason).2.queue = s.queue :=
          (s.request_speaks t.now _).queue
        by_cases hgame : kinds.contains .game <;>
          simp [hnone, hgame, onSession, Session.emit, hkick, Option.filter]

theorem queue_handleAll (r : Match.Model × List Event) :
    (sc.handleAll t r).session.queue = sc.session.queue ++ sc.tidingsOf t r := by
  have hall (sc : Scene) (events : List Event) :
      (events.foldl (handle t) sc).session.queue =
        sc.session.queue ++ sc.tidingsOfAll t events := by
    induction events generalizing sc with
    | nil => exact (List.append_nil _).symm
    | cons e events ih => rw [List.foldl_cons, ih, queue_handle, tidingsOfAll, List.append_assoc]
  exact hall _ r.2

theorem queue_finishResponse :
    (sc.finishResponse t).session.queue = sc.session.queue ++ sc.answerTidings t := by
  unfold finishResponse answerTidings
  cases sc.session.response with
  | none => exact (List.append_nil _).symm
  | some table =>
      dsimp only
      rw [queue_handleAll]
      rfl

theorem queue_receiveAuthenticated (s : Session) (line : Line) :
    (s.receiveAuthenticated t.now line).queue =
      s.queue ++ if s.stage = .handshaking then [.authenticated (line.field 0)] else [] := by
  unfold Session.receiveAuthenticated
  by_cases hstage : s.stage = .handshaking
  · rw [if_neg (by simp [hstage]), if_pos hstage]
    refine congrArg (· ++ [Event.authenticated (line.field 0)]) ?_
    exact (Session.sendAll_speaks _ t.now _).queue.trans (Session.request_speaks _ t.now _).queue
  · simp [hstage]

theorem queue_receive (line : Line) : (sc.receive t line).2.session.queue =
    sc.session.queue ++ sc.lineTidings t line := by
  unfold receive lineTidings
  cases line.kind with
  | version | echo | other => exact (List.append_nil _).symm
  | authenticated => exact queue_receiveAuthenticated t sc.session line
  | error =>
      change (sc.session.receiveError t line).queue = _
      unfold Session.receiveError
      dsimp only
      split
      · exact Session.queue_fail rfl sc.session t
      · rfl
  | response =>
      change (sc.session.receiveResponse t.now line).queue = _
      unfold Session.receiveResponse Session.receivePong
      by_cases hpong : line.field 0 = "PONG"
      · by_cases hdone : line.field 1 = Session.initToken ∧ sc.session.stage = .subscribing
        · simp only [hpong, hdone, if_true, and_self]
          rfl
        · simp [hpong, hdone]
      · simp [hpong]
  | log =>
      dsimp only
      split
      · exact sc.queue_handleAll t _
      · rename_i hunknown
        cases hentry : GameLog.classify line with
        | unknown => exact (List.append_nil _).symm
        | _ =>
            rw [hentry] at hunknown
            exact absurd rfl hunknown

/-- All that a line causes is queued behind what waits. -/
theorem queue_absorb (line : Line) :
    (sc.absorb t line).2.session.queue = sc.session.queue ++ sc.produced t line := by
  have hsync (s : Session) : s.syncTravelling.queue = s.queue := by
    simpa using s.syncTravelling_advances.queue
  unfold absorb produced
  refine (hsync _).trans ((queue_receive t _ line).trans ?_)
  split
  · rfl
  · rw [queue_finishResponse, List.append_assoc]

theorem recognised_absorb (line : Line) : (sc.absorb t line).1 = !line.isStrange := by
  have hreceive (sc : Scene) : (sc.receive t line).1 = !line.isStrange := by
    unfold receive Line.isStrange
    cases line.kind with
    | log =>
        dsimp only
        split <;> simp_all
    | _ => rfl
  exact hreceive _

theorem queue_receiveBanner (line : Bytes) :
    (sc.session.receiveBanner t line).queue = sc.session.queue ++ sc.bannerTidings line := by
  unfold Session.receiveBanner bannerTidings
  cases Wire.Banner.parse? line with
  | none => exact Session.queue_fail rfl sc.session t
  | some banner =>
      dsimp only
      cases Wire.delimiterOf? banner.protocol with
      | none => exact Session.queue_fail rfl sc.session t
      | some delimiter =>
          rw [(Session.request_speaks _ t.now _).queue]
          exact (List.append_nil _).symm

end Scene

end RemoteConsole
