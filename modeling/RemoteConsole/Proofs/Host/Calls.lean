import RemoteConsole.Proofs.Host.Serving
import RemoteConsole.Proofs.Host.Telling

namespace RemoteConsole

open Session (Action)
open Wire (Bytes)

namespace Scene

inductive Call where
  | turn (dial : Dial) (arrivals : List Arrival) (out : Outflow)
  | hear (data : Bytes)
  | act (a : Action)
  | ban (id : PlayerId) (banner reason : String) (duration : UInt64)
  | names (nameOf : Address → Option String)
  | elsewhere (bans : Option (Ban.Book × Store.Shelf))
      (ladder : Option (Ladder.Standings × Store.Shelf)) (memory : List UInt8)

def Call.run (t : Moment) (sc : Scene) : Call → Scene
  | turn dial arrivals out => sc.turn t dial arrivals out
  | hear data => sc.processData t data
  | act a => sc.onSession fun s => (s.act t a).2
  | ban id banner reason duration => (sc.banPlayer t id banner reason duration).2
  | names nameOf => sc.onSession (·.settleNames nameOf)
  | elsewhere bans ladder memory =>
    { sc with host := { sc.host with bans, ladder }, session := { sc.session with memory } }

def start (host : Host) (settings : ServerSettings) (now : Instant) : Scene :=
  ⟨host, .idle settings now, #[]⟩

def after (sc : Scene) (calls : List (Moment × Call)) : Scene :=
  calls.foldl (fun sc (t, call) => call.run t sc) sc

def Hears (can : Session → Prop) : Scene → List (Moment × Call) → Prop
  | _, [] => True
  | sc, (t, call) :: calls =>
    (∀ data, call = .hear data → can sc.session) ∧ (call.run t sc).Hears can calls

theorem hears_any (sc : Scene) (calls : List (Moment × Call)) : sc.Hears (fun _ => True) calls := by
  induction calls generalizing sc with
  | nil => trivial
  | cons call calls ih => exact ⟨fun _ _ => trivial, ih _⟩

/-- What each part of a turn keeps, where the part comes in, and each of the other calls. -/
structure Withstands (can : Session → Prop) (I : Scene → Prop) (t : Moment) : Prop where
  connect : ∀ sc, I sc → sc.session.stage = .disconnected → I (sc.onSession (·.startConnect))
  poll : ∀ sc dial, I sc → sc.session.stage = .connecting → I (sc.onSession (·.pollConnect t dial))
  hear : ∀ sc data, I sc → can sc.session → I (sc.processData t data)
  lose : ∀ sc fault, I sc → I (sc.onSession (·.fail t fault))
  timers : ∀ sc, I sc → I (sc.onSession (·.runTimers t))
  drain : ∀ sc out, I sc → I (sc.onSession (·.drainOutbound t out))
  flush : ∀ sc, I sc → I (sc.flush t)
  act : ∀ sc a, I sc → I (sc.onSession fun s => (s.act t a).2)
  ban : ∀ sc id banner reason duration, I sc → I (sc.banPlayer t id banner reason duration).2
  names : ∀ sc nameOf, I sc → I (sc.onSession (·.settleNames nameOf))
  elsewhere : ∀ sc bans ladder memory, I sc →
    I { sc with host := { sc.host with bans, ladder }, session := { sc.session with memory } }

namespace Withstands

variable {can : Session → Prop} {I : Scene → Prop} {t : Moment} (h : Withstands can I t)
  (hopen : ∀ s : Session, s.socket = true → can s) {sc : Scene}

include h hopen

theorem arrive (hsc : I sc) (a : Arrival) : I (sc.arrive t a) := by
  unfold Scene.arrive
  by_cases hsocket : sc.session.socket = true
  · rw [if_neg (by simp [hsocket])]
    cases a with
    | bytes data => exact h.hear sc data hsc (hopen _ hsocket)
    | ended => exact h.lose sc _ hsc
    | failed reason => exact h.lose sc _ hsc
  · rw [if_pos (by simp [hsocket])]
    exact hsc

theorem advance (hsc : I sc) (dial : Dial) (arrivals : List Arrival) :
    I (sc.advance t dial arrivals) := by
  unfold Scene.advance
  split
  · rename_i hstage
    split
    · exact h.connect sc hsc hstage
    · exact hsc
  · rename_i hstage
    exact h.poll sc dial hsc hstage
  · have harrivals : I ((arrivals.take readsPerTurn).foldl (Scene.arrive t) sc) :=
      List.foldlRecOn (motive := I) _ _ hsc fun _ hsc a _ => h.arrive hopen hsc a
    dsimp only
    split
    · exact h.timers _ harrivals
    · exact harrivals

theorem turn (hsc : I sc) (dial : Dial) (arrivals : List Arrival) (out : Outflow) :
    I (sc.turn t dial arrivals out) := by
  unfold Scene.turn
  split
  · exact hsc
  · exact h.flush _ (h.drain _ out (h.advance hopen hsc dial arrivals))

theorem run (hsc : I sc) (call : Call) (hcan : ∀ data, call = .hear data → can sc.session) :
    I (call.run t sc) := by
  cases call with
  | turn dial arrivals out => exact h.turn hopen hsc dial arrivals out
  | hear data => exact h.hear sc data hsc (hcan data rfl)
  | act a => exact h.act sc a hsc
  | ban id banner reason duration => exact h.ban sc id banner reason duration hsc
  | names nameOf => exact h.names sc nameOf hsc
  | elsewhere bans ladder memory => exact h.elsewhere sc bans ladder memory hsc

omit h in
/-- What every call keeps holds after all of them. -/
theorem after (h : ∀ t, Withstands can I t) (hsc : I sc) {calls : List (Moment × Call)}
    (hcalls : sc.Hears can calls) : I (sc.after calls) := by
  induction calls generalizing sc with
  | nil => exact hsc
  | cons call calls ih => exact ih ((h call.1).run hopen hsc call.2 hcalls.1) hcalls.2

end Withstands

end Scene

end RemoteConsole
