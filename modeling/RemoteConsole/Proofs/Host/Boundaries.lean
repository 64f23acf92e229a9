import RemoteConsole.Proofs.Host.Reached

namespace RemoteConsole

open Session (Action)
open Wire (Bytes Framer)

namespace Scene

/-- The lines that a stream gives are processed until one of them ends the session. -/
def takeLines (t : Moment) (lines : List Bytes) (sc : Scene) : Scene :=
  lines.foldl (fun sc line => if sc.session.terminated.isSome then sc else sc.processLine t line) sc

theorem takeLines_of_ended (t : Moment) (lines : List Bytes) {sc : Scene}
    (h : sc.session.terminated.isSome) : sc.takeLines t lines = sc := by
  induction lines with
  | nil => rfl
  | cons line lines ih =>
      rw [takeLines, List.foldl_cons, if_pos h]
      exact ih

theorem takeLines_append (t : Moment) (lines more : List Bytes) (sc : Scene) :
    sc.takeLines t (lines ++ more) = (sc.takeLines t lines).takeLines t more :=
  List.foldl_append

section Reading

variable {t : Moment} {f : Framer} {sc ahead : Scene}

theorem Lags.processLine {pending : List Event} (h : Lags pending sc ahead)
    (hhost : sc.host.Answers Gentle) (line : Bytes) :
    ∃ pending, Lags pending (sc.processLine t line) (ahead.processLine t line) := by
  unfold Scene.processLine
  rw [h.session.delimiter]
  split
  · have hread : Lags pending (sc.onSession (·.receiveBanner t line))
        (ahead.onSession (·.receiveBanner t line)) :=
      h.onSession (h.session.receiveBanner t line)
    have hanswers : (sc.onSession (·.receiveBanner t line)).host.Answers Gentle := hhost
    have hflushed := hread.flush (t := t) hanswers
    rw [← host_flush t] at hanswers
    exact ⟨[], hflushed.callPlugins (.raw _) (fun _ => true) fun p hp => hanswers.raw p hp _⟩
  · split
    · exact ⟨pending, h⟩
    · rename_i line _
      obtain ⟨hrecognised, hread⟩ := h.absorb t line
      have hanswers := hhost.sameBut (sc.yields_absorb t line).host
      have hflushed := hread.flush (t := t) hanswers
      rw [← host_flush t] at hanswers
      rw [processFields_eq, processFields_eq, hrecognised]
      refine ⟨[], ?_⟩
      split
      · exact hflushed.callPlugins _ _ fun p hp => hanswers.raw p hp _
      · have hothers := hflushed.callPlugins (t := t) (.other line) (fun _ => true)
          fun p hp => hanswers.other p hp line
        refine hothers.callPlugins _ _ fun p hp => ?_
        rw [host_callPlugins] at hp
        exact hanswers.raw p hp _

/-- One scene has read, in whatever pieces, what the other has been given as lines. The framer tells
what it has read of the next line. -/
structure Reads (f : Framer) (sc ahead : Scene) : Prop where
  lags : ∃ pending, Lags pending sc ahead
  gentle : sc.host.Answers Gentle
  rests : ahead.session.Rests
  framer : ahead.session.terminated.isSome ∨ ahead.session.framer = f

namespace Reads

theorem terminated (h : Reads f sc ahead) :
    ahead.session.terminated = sc.session.terminated := by
  obtain ⟨pending, hlags⟩ := h.lags
  exact hlags.session.terminated

theorem gentle_framer (answer : Session → List Action) (hanswer : Gentle answer) (seen : Session)
    (a : Action) (ha : a ∈ answer seen) (s : Session) (h : s.terminated.isSome ∨ s.framer = f) :
    (s.act t a).2.terminated.isSome ∨ (s.act t a).2.framer = f := by
  rw [(s.act_speaks (hanswer.stays seen a ha) t).same]
  exact h

theorem line (h : Reads f sc ahead) (line : Bytes) :
    Reads f (sc.processLine t line) (ahead.processLine t line) := by
  obtain ⟨pending, hlags⟩ := h.lags
  have hgentle : ahead.host.Answers Gentle := hlags.host ▸ h.gentle
  refine ⟨hlags.processLine h.gentle line, h.gentle.sameBut (sc.sameBut_processLine t line),
    rests_processLine h.rests line, ?_⟩
  refine processLine_keeps gentle_framer ?_ ?_ (fun _ _ _ _ hs => hs) hgentle h.framer line
  · intro events s after hafter hs
    rw [hafter.terminated, hafter.framer]
    exact hs
  · intro s after _ hended _
    exact .inl hended

theorem frames (h : Reads f sc ahead) (framer : Framer) (lastReceived : Instant) :
    Reads framer sc (ahead.onSession ({ · with framer, lastReceived })) := by
  obtain ⟨pending, hlags⟩ := h.lags
  exact ⟨⟨pending, hlags.host, hlags.session.reads framer lastReceived, hlags.told⟩, h.gentle,
    h.rests, .inr rfl⟩

theorem lines (h : Reads f sc ahead) {fuel : Nat} (hfuel : f.buffer.length < fuel) :
    Reads f.drain.2 (sc.takeLines t f.drain.1) (ahead.processLines t fuel) := by
  induction fuel generalizing f sc ahead with
  | zero => exact absurd hfuel (Nat.not_lt_zero _)
  | succ fuel ih =>
      unfold Scene.processLines
      by_cases hended : ahead.session.terminated.isSome
      · rw [if_pos hended, sc.takeLines_of_ended t _ (h.terminated ▸ hended)]
        exact ⟨h.lags, h.gentle, h.rests, .inl hended⟩
      · rw [if_neg hended, h.framer.resolve_left hended]
        rcases hnext : f.next with ⟨_ | line, framer⟩
        · rw [Framer.drain_of_next_none hnext]
          exact h.frames framer ahead.session.lastReceived
        · have hshort := Framer.next_some_length hnext
          have hline := (h.frames framer ahead.session.lastReceived).line (t := t) line
          rw [Framer.drain_of_next_some hnext, takeLines, List.foldl_cons,
            if_neg (h.terminated ▸ hended)]
          exact ih hline (by omega)

theorem flush (h : Reads f sc ahead) : Reads f sc (ahead.flush t) := by
  obtain ⟨pending, hlags⟩ := h.lags
  have hgentle : ahead.host.Answers Gentle := hlags.host ▸ h.gentle
  refine ⟨?_, h.gentle, .inl (ahead.rests_flush t),
    flush_keeps gentle_framer hgentle (fun _ _ _ _ hs => hs) h.framer⟩
  rcases h.rests with hempty | hsocket
  · have hsame : ahead.flush t = ahead := by rw [Scene.flush, hempty, flushFrom, hempty]
    exact ⟨pending, hsame.symm ▸ hlags⟩
  · have hoffline : sc.session.socket = false := hlags.session.socket.symm.trans hsocket
    obtain ⟨htold, hends⟩ := flush_offline (t := t) hgentle hsocket
    have hemptied : sc.session.Lags (pending ++ ahead.session.queue)
        { ahead.session with queue := [] } := by
      refine ⟨by rw [hlags.session.same], ?_, fun hopen => ?_⟩
      · rw [List.append_nil, hlags.session.queue]
      · exact absurd (hoffline.symm.trans hopen) (by decide)
    refine ⟨pending ++ ahead.session.queue, (ahead.host_flush t).trans hlags.host,
      hemptied.speaks hoffline (.refl _) hends, ?_⟩
    rw [htold, hlags.told, hlags.host, List.flatMap_append, List.append_assoc]

theorem chunk (h : Reads f sc ahead) (data : Bytes) :
    Reads (f.feed data).2 (sc.takeLines t (f.feed data).1) (ahead.processData t data) := by
  have hheard := h.frames (ahead.session.framer.push data) t.now
  have hlines := hheard.lines (t := t) (Nat.lt_succ_self _)
  have hflushed : Reads (ahead.session.framer.feed data).2
      (sc.takeLines t (ahead.session.framer.feed data).1) (ahead.processData t data) := hlines.flush
  rcases h.framer with hended | hframer
  · rw [sc.takeLines_of_ended t _ (h.terminated ▸ hended)] at hflushed ⊢
    refine ⟨hflushed.lags, hflushed.gentle, hflushed.rests, .inl ?_⟩
    rw [hflushed.terminated, ← h.terminated]
    exact hended
  · rw [hframer] at hflushed
    exact hflushed

theorem chunks (h : Reads f sc ahead) (chunks : List Bytes) :
    Reads (Framer.feedAll chunks f).2 (sc.takeLines t (Framer.feedAll chunks f).1)
      (chunks.foldl (processData t) ahead) := by
  induction chunks generalizing f sc ahead with
  | nil => exact h
  | cons chunk chunks ih =>
      rw [Framer.feedAll, takeLines_append]
      exact ih (h.chunk chunk)

end Reads

theorem queue_foldl_processData (t : Moment) (sc : Scene) {chunks : List Bytes}
    (hchunks : chunks ≠ []) : (chunks.foldl (processData t) sc).session.queue = [] := by
  induction chunks using List.reverseRecOn with
  | nil => exact absurd rfl hchunks
  | append_singleton chunks chunk _ =>
      rw [List.foldl_append]
      exact rests_flush t _

end Reading

theorem gentle_builtin : ∀ c ∈ Chat.builtin.commands, ∀ reference p params,
    Gentle (c.run reference · p params) := by
  intro c hc reference p params
  rcases List.mem_cons.1 hc with rfl | hc
  · exact ⟨fun _ a ha => by rw [List.mem_singleton.1 ha]; rfl, fun _ _ _ => rfl⟩
  · rw [List.mem_singleton.1 hc]
    exact ⟨fun _ a ha => by rw [List.mem_singleton.1 ha]; rfl, fun _ _ _ => rfl⟩

/-- Where the bytes of a server are cut makes no difference, as long as no line outgrows the limit
and no observer drops the connection: observers are told the same, and the model, the stage, the
reason for an end and the requests that wait become the same. -/
theorem reads_may_be_cut_anywhere {sc : Scene} (hreached : sc.session.Reached)
    (hgentle : sc.host.Answers Gentle) (t : Moment) {chunks others : List Bytes}
    (hchunks : chunks ≠ []) (hothers : others ≠ []) (hsame : chunks.flatten = others.flatten)
    (hshort : ∀ line ∈ Wire.endedLines (sc.session.framer.buffer ++ chunks.flatten),
      line.length ≤ Wire.lineLimit) :
    let one := chunks.foldl (processData t) sc
    let other := others.foldl (processData t) sc
    one.told = other.told ∧ one.session.model = other.session.model ∧
      one.session.stage = other.session.stage ∧
      one.session.terminated = other.session.terminated ∧
      one.session.outbound = other.session.outbound := by
  intro one other
  have hreads : Reads sc.session.framer sc sc :=
    ⟨⟨[], .refl sc⟩, hgentle, hreached.rests, .inr rfl⟩
  obtain ⟨pending, hone⟩ := (hreads.chunks (t := t) chunks).lags
  obtain ⟨pending', hother⟩ := (hreads.chunks (t := t) others).lags
  -- both have read the same lines, one after the other
  have hlines : sc.takeLines t (Framer.feedAll chunks sc.session.framer).1 =
      sc.takeLines t (Framer.feedAll others sc.session.framer).1 := by
    rcases hreached.framed.opened with hended | hopened
    · rw [sc.takeLines_of_ended t _ hended, sc.takeLines_of_ended t _ hended]
    · rw [← hreached.framed.limit] at hshort
      have hfits : sc.session.framer.Fits chunks.flatten := ⟨hopened, hshort⟩
      rw [Framer.feedAll_awaited hfits, hsame, Framer.feedAll_awaited (hsame ▸ hfits)]
  rw [← hlines] at hother
  -- and have told of all that waited
  have hqueue : pending = pending' := by
    have hfirst := hone.session.queue
    have hsecond := hother.session.queue
    rw [queue_foldl_processData t sc hchunks, List.append_nil] at hfirst
    rw [queue_foldl_processData t sc hothers, List.append_nil] at hsecond
    exact hfirst.symm.trans hsecond
  subst hqueue
  exact ⟨hone.told.trans hother.told.symm, hone.session.model.trans hother.session.model.symm,
    hone.session.stage.trans hother.session.stage.symm,
    hone.session.terminated.trans hother.session.terminated.symm,
    hone.session.outbound.trans hother.session.outbound.symm⟩

theorem reads_may_be_cut_anywhere_during_the_handshake :
    let host : Host := { observers := { plugins := [{
      name := "greeter"
      onEvent := fun _ _ => [.say "hello"] }] } }
    let sc := (start host { name := "eu" } ⟨0⟩).after
      [(⟨⟨1⟩, 0⟩, .turn .underway [] (.took 0)), (⟨⟨2⟩, 0⟩, .turn .opened [] (.took 0))]
    let stream := "v005\x02game\naroot\nr1\n".toUTF8.toList
    let one := [stream].foldl (processData ⟨⟨3⟩, 0⟩) sc
    let other := [stream.take 7, [], (stream.drop 7).take 6, stream.drop 13].foldl
      (processData ⟨⟨3⟩, 0⟩) sc
    one.session.stage = .subscribing ∧
      one.told = other.told ∧ one.session.model = other.session.model ∧
      one.session.stage = other.session.stage ∧
      one.session.terminated = other.session.terminated ∧
      one.session.outbound = other.session.outbound := by
  intro host sc stream one other
  have hgentle : sc.host.Answers Gentle := by
    have hhost : sc.host = host := rfl
    rw [hhost]
    refine ⟨fun p hp e => ?_, fun p hp line => ?_, fun p hp text => ?_,
      fun r hr => absurd hr List.not_mem_nil, gentle_builtin⟩
    · rw [List.mem_singleton.1 hp]
      exact ⟨fun _ a ha => by rw [List.mem_singleton.1 ha]; rfl, fun _ _ _ => rfl⟩
    · rw [List.mem_singleton.1 hp]
      exact ⟨fun _ a ha => absurd ha List.not_mem_nil, fun _ _ _ => rfl⟩
    · rw [List.mem_singleton.1 hp]
      exact ⟨fun _ a ha => absurd ha List.not_mem_nil, fun _ _ _ => rfl⟩
  have hsame : [stream].flatten =
      [stream.take 7, [], (stream.drop 7).take 6, stream.drop 13].flatten := by decide +kernel
  have hshort : ∀ line ∈ Wire.endedLines (sc.session.framer.buffer ++ [stream].flatten),
      line.length ≤ Wire.lineLimit := by decide +kernel
  have hstage : one.session.stage = .subscribing := by decide +kernel
  exact ⟨hstage, reads_may_be_cut_anywhere ⟨host, _, _, _, rfl⟩ hgentle ⟨⟨3⟩, 0⟩
    (List.cons_ne_nil _ _) (List.cons_ne_nil _ _) hsame hshort⟩

end Scene

end RemoteConsole
