import RemoteConsole.Proofs.Host.Flushing

namespace RemoteConsole

open Session (Action Advances)
open Wire (Bytes)

theorem Host.Answers.sameBut {ok : (Session → List Action) → Prop} {h after : Host}
    (hanswers : h.Answers ok) (hsame : h.SameBut after) : after.Answers ok := by
  rw [hsame]
  exact ⟨hanswers.event, hanswers.other, hanswers.raw, hanswers.handler, hanswers.command⟩

namespace Scene

variable {t : Moment} {sc : Scene}

theorem sameBut_processLine (t : Moment) (sc : Scene) (line : Bytes) :
    sc.host.SameBut (sc.processLine t line).host := by
  rcases sc.processLine_cases t line with hsame | ⟨read, heard, text, hreacts, hheard, hline⟩
  · rw [hsame]
    exact .refl _
  · rw [hline, deliverRaw, host_callPlugins]
    rcases hheard with rfl | ⟨other, rfl⟩
    · rw [host_flush]
      exact hreacts.yields.host
    · rw [deliverOther, host_callPlugins, host_flush]
      exact hreacts.yields.host

theorem processLine_keeps_of_reads {ok : (Session → List Action) → Prop} {P : Session → Prop}
    (hact : ∀ answer, ok answer → ∀ seen, ∀ a ∈ answer seen, ∀ s, P s → P (s.act t a).2)
    (hreads : ∀ read, sc.Reacts t read → P read.session)
    (htake : ∀ s : Session, ∀ e queue, s.queue = e :: queue → P s → P { s with queue })
    (hhost : sc.host.Answers ok) (h : P sc.session) (line : Bytes) :
    P (sc.processLine t line).session := by
  rcases sc.processLine_cases t line with hsame | ⟨read, heard, text, hreacts, hheard, hline⟩
  · rw [hsame]
    exact h
  · have hanswers := hhost.sameBut hreacts.yields.host
    have hflushed := flush_keeps hact hanswers htake (hreads read hreacts)
    rw [← host_flush t] at hanswers
    rw [hline]
    rcases hheard with rfl | ⟨other, rfl⟩
    · exact deliverRaw_keeps hact hanswers text hflushed
    · refine deliverRaw_keeps hact ?_ text (deliverOther_keeps hact hanswers other hflushed)
      rw [deliverOther, host_callPlugins]
      exact hanswers

/-- What the advance of a session, its end, and the actions of observers keep, a line keeps. -/
theorem processLine_keeps {ok : (Session → List Action) → Prop} {P : Session → Prop}
    (hact : ∀ answer, ok answer → ∀ seen, ∀ a ∈ answer seen, ∀ s, P s → P (s.act t a).2)
    (hadvances : ∀ events s after, Advances events s after → P s → P after)
    (hends : ∀ s after, s.Parts after → after.terminated.isSome → P s → P after)
    (htake : ∀ s : Session, ∀ e queue, s.queue = e :: queue → P s → P { s with queue })
    (hhost : sc.host.Answers ok) (h : P sc.session) (line : Bytes) :
    P (sc.processLine t line).session := by
  have hserves {after : Scene} (hafter : sc.Serves after) : P after.session := by
    obtain ⟨events, hevents⟩ := hafter.session
    exact hadvances events _ _ hevents h
  refine processLine_keeps_of_reads hact (fun read hreacts => ?_) htake hhost h line
  rcases hreacts.yields with hafter | ⟨between, hbetween, hfalls⟩
  · exact hserves hafter
  · exact hends _ _ hfalls.session hfalls.terminated (hserves hbetween)

theorem rests_processLine (h : sc.session.Rests) (line : Bytes) :
    (sc.processLine t line).session.Rests := by
  have hact := any_answer_keeps (t := t) (P := Session.Rests) fun _ a hs => hs.act t a
  rcases sc.processLine_cases t line with hsame | ⟨read, heard, text, -, hheard, hline⟩
  · rw [hsame]
    exact h
  · have hflushed : (read.flush t).session.Rests := .inl (read.rests_flush t)
    rw [hline]
    rcases hheard with rfl | ⟨other, rfl⟩
    · exact deliverRaw_keeps hact (Host.answers_any _) text hflushed
    · exact deliverRaw_keeps hact (Host.answers_any _) text
        (deliverOther_keeps hact (Host.answers_any _) other hflushed)

theorem framer_processLine (t : Moment) (sc : Scene) (line : Bytes) :
    (sc.processLine t line).session.framer.limit = sc.session.framer.limit ∧
      (sc.processLine t line).session.framer.buffer.length ≤ sc.session.framer.buffer.length := by
  generalize hframer : sc.session.framer = f
  have hparts {s after : Session} (h : s.Parts after)
      (hs : s.framer.limit = f.limit ∧ s.framer.buffer.length ≤ f.buffer.length) :
      after.framer.limit = f.limit ∧ after.framer.buffer.length ≤ f.buffer.length := by
    obtain ⟨reason, hsame⟩ := h.same
    rw [hsame]
    exact ⟨hs.1, Nat.zero_le _⟩
  have hacts (s : Session) (a : Action)
      (hs : s.framer.limit = f.limit ∧ s.framer.buffer.length ≤ f.buffer.length) :
      (s.act t a).2.framer.limit = f.limit ∧
        (s.act t a).2.framer.buffer.length ≤ f.buffer.length := by
    rcases s.act_cases t a with hspeaks | hends
    · rw [hspeaks.advances.framer]
      exact hs
    · exact hparts hends hs
  refine processLine_keeps (any_answer_keeps hacts) ?_ (fun s after hends _ hs => hparts hends hs)
    (fun _ _ _ _ hs => hs) sc.host.answers_any ?_ line
  · intro events s after hafter hs
    rw [hafter.framer]
    exact hs
  · rw [hframer]
    exact ⟨rfl, Nat.le_refl _⟩

theorem processLines_of_ended (hended : sc.session.terminated.isSome) (fuel : Nat) :
    sc.processLines t fuel = sc := by
  cases fuel with
  | zero => rfl
  | succ fuel => rw [processLines, if_pos hended]

end Scene

end RemoteConsole
