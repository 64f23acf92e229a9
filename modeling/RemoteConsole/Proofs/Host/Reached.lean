import RemoteConsole.Proofs.Host.Calls
import RemoteConsole.Proofs.Host.Lines
import RemoteConsole.Proofs.Wire.Cutting

namespace RemoteConsole

open Session (Action)
open Wire (Framer)

namespace Session

structure Framed (s : Session) : Prop where
  limit : s.framer.limit = Wire.lineLimit
  opened : s.terminated.isSome ∨ Wire.newline ∉ s.framer.buffer

namespace Framed

variable {s after : Session} (h : s.Framed)

include h

theorem same (hframer : after.framer = s.framer) (hterminated : after.terminated = s.terminated) :
    after.Framed where
  limit := by rw [hframer, h.limit]
  opened := by
    rw [hframer, hterminated]
    exact h.opened

theorem parts (hafter : s.Parts after) : after.Framed := by
  obtain ⟨reason, hsame⟩ := hafter.same
  rw [hsame]
  exact ⟨h.limit, .inr List.not_mem_nil⟩

theorem either (hafter : s.Speaks after ∨ s.Parts after) : after.Framed := by
  rcases hafter with hspeaks | hparts
  · exact h.same hspeaks.advances.framer hspeaks.advances.terminated
  · exact h.parts hparts

end Framed

end Session

namespace Scene

variable {t : Moment} {sc : Scene}

theorem framed_flush (h : sc.session.Framed) : (sc.flush t).session.Framed := by
  have hact := any_answer_keeps fun s a (hs : s.Framed) => hs.either (s.act_cases t a)
  exact flush_keeps hact sc.host.answers_any (fun _ _ _ _ hs => hs.same rfl rfl) h

theorem framed_processLines (fuel : Nat) (hlimit : sc.session.framer.limit = Wire.lineLimit)
    (hfuel : sc.session.framer.buffer.length < fuel) :
    (sc.processLines t fuel).session.Framed := by
  induction fuel generalizing sc with
  | zero => exact absurd hfuel (Nat.not_lt_zero _)
  | succ fuel ih =>
      unfold processLines
      obtain ⟨hopened, hkeeps⟩ := sc.session.framer.next_leaves
      split
      · rename_i hended
        exact ⟨hlimit, .inl hended⟩
      · rcases hnext : sc.session.framer.next with ⟨_ | line, framer⟩
        · rw [hnext] at hopened hkeeps
          exact ⟨hkeeps.trans hlimit, .inr (hopened rfl)⟩
        · rw [hnext] at hkeeps
          have hshort := Framer.next_some_length hnext
          obtain ⟨hsame, hless⟩ := framer_processLine t (sc.onSession ({ · with framer })) line
          refine ih ((hsame.trans hkeeps).trans hlimit) ?_
          exact Nat.lt_of_le_of_lt hless (Nat.lt_of_lt_of_le hshort (Nat.le_of_lt_succ hfuel))

theorem withstands_framed (t : Moment) : Withstands (fun _ => True) (·.session.Framed) t where
  connect _ h _ := h.same rfl rfl
  poll sc dial h _ := by
    unfold onSession Session.pollConnect
    dsimp only
    split
    · exact h.same rfl rfl
    · cases dial with
      | underway => exact h
      | opened => exact h.same rfl rfl
      | failed reason => exact Session.Framed.parts (h.same rfl rfl) (Session.fail_parts _ t _)
  hear sc data h _ := framed_flush (framed_processLines _ h.limit (Nat.lt_succ_self _))
  lose sc fault h := h.parts (sc.session.fail_parts t fault)
  timers sc h := h.either (sc.session.runTimers_cases t)
  drain sc out h := by
    rcases sc.session.drainOutbound_cases t out with ⟨hsame, -⟩ | hparts
    · change (sc.session.drainOutbound t out).Framed
      rw [hsame]
      exact h.same rfl rfl
    · exact h.parts hparts
  flush _ h := framed_flush h
  act sc a h := h.either (sc.session.act_cases t a)
  ban sc id banner reason duration h := by
    obtain ⟨events, hevents⟩ := (sc.serves_banPlayer t id banner reason duration).session
    exact h.same hevents.framer hevents.terminated
  names _ _ h := h.same rfl rfl
  elsewhere _ _ _ _ h := h.same rfl rfl

theorem rests_run (h : sc.session.Rests) (call : Call) : (call.run t sc).session.Rests := by
  cases call with
  | turn dial arrivals out =>
      change (sc.turn t dial arrivals out).session.Rests
      unfold turn
      split
      · exact h
      · exact .inl (rests_flush t _)
  | hear data => exact .inl (rests_flush t _)
  | act a => exact h.act t a
  | ban id banner reason duration =>
      obtain ⟨model, hspeaks⟩ := sc.banPlayer_speaks t id banner reason duration
      change (sc.banPlayer t id banner reason duration).2.session.Rests
      rw [hspeaks.same]
      exact h
  | names nameOf => exact h
  | elsewhere bans ladder memory => exact h

end Scene

/-- Some calls lead to the session. -/
def Session.Reached (s : Session) : Prop :=
  ∃ host settings now calls, ((Scene.start host settings now).after calls).session = s

namespace Session.Reached

variable {s : Session} (h : s.Reached)

include h

theorem framed : s.Framed := by
  obtain ⟨host, settings, now, calls, rfl⟩ := h
  have hstart : (Scene.start host settings now).session.Framed := ⟨rfl, .inr List.not_mem_nil⟩
  exact Scene.Withstands.after (I := (·.session.Framed)) (fun _ _ => trivial)
    Scene.withstands_framed hstart (Scene.hears_any _ calls)

theorem rests : s.Rests := by
  obtain ⟨host, settings, now, calls, rfl⟩ := h
  refine List.foldlRecOn (motive := fun sc : Scene => sc.session.Rests) calls _ (.inl rfl) ?_
  exact fun sc hsc call _ => Scene.rests_run hsc call.2

end Session.Reached

end RemoteConsole
