import RemoteConsole.Host.Turn

namespace RemoteConsole.Scene

inductive Step where
  | hear (data : Wire.Bytes)
  | frame (framer : Wire.Framer)
  | banner (line : Wire.Bytes)
  | answer
  | line (line : Wire.Line)
  | followMap
  | flush
  | tellOther (line : Wire.Line)
  | tellRaw (text : String)
  | startConnect
  | pollConnect (dial : Dial)
  | lose (fault : Fault)
  | timers
  | drain (out : Outflow)
  | names (nameOf : Address → Option String)
  | act (a : Session.Action)
  | ban (id : PlayerId) (banner reason : String) (duration : UInt64)
  | elsewhere (host : Host)

namespace Step

def run (t : Moment) (sc : Scene) : Step → Scene
  | hear data =>
      sc.onSession fun s => { s with framer := s.framer.push data, lastReceived := t.now }
  | frame framer => sc.onSession ({ · with framer })
  | banner bytes => sc.onSession (·.receiveBanner t bytes)
  | answer => sc.finishResponse t
  | line l => (sc.receive t l).2
  | followMap => sc.onSession (·.syncTravelling)
  | flush => sc.flush t
  | tellOther l => sc.deliverOther t l
  | tellRaw text => sc.deliverRaw t text
  | startConnect => sc.onSession (·.startConnect)
  | pollConnect dial => sc.onSession (·.pollConnect t dial)
  | lose fault => sc.onSession (·.fail t fault)
  | timers => sc.onSession (·.runTimers t)
  | drain out => sc.onSession (·.drainOutbound t out)
  | names nameOf => sc.onSession (·.settleNames nameOf)
  | act a => sc.onSession fun s => (s.act t a).2
  | ban id author reason duration => (sc.banPlayer t id author reason duration).2
  | elsewhere host => ⟨host, sc.session, #[]⟩

end Step

def course (sc : Scene) (steps : List (Moment × Step)) : Scene :=
  steps.foldl (fun sc (t, step) => step.run t sc) sc

variable {t : Moment}

/-- One scene becomes the other by steps of one moment. -/
def Becomes (t : Moment) (sc after : Scene) : Prop :=
  ∃ steps : List Step, sc.course (steps.map (t, ·)) = after

theorem Becomes.refl (sc : Scene) : Becomes t sc sc :=
  ⟨[], rfl⟩

theorem Becomes.trans {sc between after : Scene} (h : Becomes t sc between)
    (h' : Becomes t between after) : Becomes t sc after := by
  obtain ⟨steps, rfl⟩ := h
  obtain ⟨more, rfl⟩ := h'
  exact ⟨steps ++ more, by rw [course, List.map_append, List.foldl_append]; rfl⟩

theorem becomes_processFields (sc : Scene) (line : Wire.Line) :
    Becomes t sc (sc.processFields t line) := by
  have hanswer : Becomes t sc (if line.kind = .response then sc else sc.finishResponse t) := by
    split
    · exact .refl sc
    · exact ⟨[.answer], rfl⟩
  unfold processFields
  refine hanswer.trans ?_
  generalize (if line.kind = .response then sc else sc.finishResponse t) = sc
  dsimp only
  cases hreceive : sc.receive t line with
  | mk recognised after =>
      have hline : Step.run t sc (.line line) = after := congrArg Prod.snd hreceive
      have hfirst : Becomes t sc after := ⟨[.line line], hline⟩
      refine hfirst.trans ?_
      cases recognised with
      | true => exact ⟨[.followMap, .flush, .tellRaw line.raw], rfl⟩
      | false => exact ⟨[.followMap, .flush, .tellOther line, .tellRaw line.raw], rfl⟩

theorem becomes_processLine (sc : Scene) (line : Wire.Bytes) :
    Becomes t sc (sc.processLine t line) := by
  unfold processLine
  split
  · exact ⟨[.banner line, .flush, .tellRaw (Text.Utf8.decode line)], rfl⟩
  · split
    · exact .refl sc
    · exact becomes_processFields sc _

namespace Step

def IsAside : Step → Prop
  | banner _ | answer | line _ => False
  | _ => True

end Step

/-- What can happen on a session, if all that becomes of a line is taken together. -/
inductive Happening where
  | line (bytes : Wire.Bytes)
  | aside (step : Step) (h : step.IsAside)

def Happening.run (t : Moment) (sc : Scene) : Happening → Scene
  | line bytes => sc.processLine t bytes
  | aside step _ => step.run t sc

def live (sc : Scene) (life : List (Moment × Happening)) : Scene :=
  life.foldl (fun sc (t, happening) => happening.run t sc) sc

/-- One scene becomes the other by what happens at one moment. -/
def Lives (t : Moment) (sc after : Scene) : Prop :=
  ∃ happenings : List Happening, sc.live (happenings.map (t, ·)) = after

theorem Lives.refl (sc : Scene) : Lives t sc sc :=
  ⟨[], rfl⟩

theorem Lives.trans {sc between after : Scene} (h : Lives t sc between)
    (h' : Lives t between after) : Lives t sc after := by
  obtain ⟨happenings, rfl⟩ := h
  obtain ⟨more, rfl⟩ := h'
  exact ⟨happenings ++ more, by rw [live, List.map_append, List.foldl_append]; rfl⟩

theorem Lives.line (sc : Scene) (bytes : Wire.Bytes) : Lives t sc (sc.processLine t bytes) :=
  ⟨[.line bytes], rfl⟩

theorem Lives.aside (sc : Scene) (step : Step) (h : step.IsAside) : Lives t sc (step.run t sc) :=
  ⟨[.aside step h], rfl⟩

theorem Lives.foldl {α : Type} {f : Scene → α → Scene} (hf : ∀ sc a, Lives t sc (f sc a))
    (as : List α) (sc : Scene) : Lives t sc (as.foldl f sc) := by
  induction as generalizing sc with
  | nil => exact .refl sc
  | cons a as ih => exact (hf sc a).trans (ih (f sc a))

theorem Lives.becomes {sc after : Scene} (h : Lives t sc after) : Becomes t sc after := by
  obtain ⟨happenings, rfl⟩ := h
  induction happenings generalizing sc with
  | nil => exact .refl sc
  | cons happening happenings ih =>
      have hfirst : Becomes t sc (happening.run t sc) := by
        cases happening with
        | line bytes => exact becomes_processLine sc bytes
        | aside step _ => exact ⟨[step], rfl⟩
      exact hfirst.trans ih

theorem lives_processLines (fuel : Nat) (sc : Scene) : Lives t sc (sc.processLines t fuel) := by
  induction fuel generalizing sc with
  | zero => exact .refl sc
  | succ fuel ih =>
      unfold processLines
      split
      · exact .refl sc
      · split
        · exact .aside sc (.frame _) trivial
        · rename_i line framer _
          have hframe : Lives t sc (sc.onSession ({ · with framer })) :=
            .aside sc (.frame framer) trivial
          exact (hframe.trans (.line _ line)).trans (ih _)

theorem lives_processData (sc : Scene) (data : Wire.Bytes) :
    Lives t sc (sc.processData t data) := by
  have hhear := Lives.aside (t := t) sc (.hear data) trivial
  exact (hhear.trans (lives_processLines _ _)).trans (.aside _ .flush trivial)

theorem lives_arrive (sc : Scene) (a : Arrival) : Lives t sc (sc.arrive t a) := by
  unfold arrive
  split
  · exact .refl sc
  · cases a with
    | bytes data => exact lives_processData sc data
    | ended => exact .aside sc (.lose (.network "connection closed by server")) trivial
    | failed reason => exact .aside sc (.lose (.io reason)) trivial

theorem lives_advance (dial : Dial) (arrivals : List Arrival) (sc : Scene) :
    Lives t sc (sc.advance t dial arrivals) := by
  unfold advance
  split
  · split
    · exact .aside sc .startConnect trivial
    · exact .refl sc
  · exact .aside sc (.pollConnect dial) trivial
  · have harrivals := Lives.foldl (lives_arrive (t := t)) (arrivals.take readsPerTurn) sc
    refine harrivals.trans ?_
    generalize (arrivals.take readsPerTurn).foldl (arrive t) sc = sc
    dsimp only
    split
    · exact .aside sc .timers trivial
    · exact .refl sc

theorem lives_turn (dial : Dial) (arrivals : List Arrival) (out : Outflow) (sc : Scene) :
    Lives t sc (sc.turn t dial arrivals out) := by
  have hconclude (sc : Scene) : Lives t sc (sc.conclude t out) :=
    (Lives.aside sc (.drain out) trivial).trans (.aside _ .flush trivial)
  unfold turn
  split
  · exact .refl sc
  · exact (lives_advance dial arrivals sc).trans (hconclude _)

/-- A whole turn is made of such steps. -/
theorem becomes_turn (dial : Dial) (arrivals : List Arrival) (out : Outflow) (sc : Scene) :
    Becomes t sc (sc.turn t dial arrivals out) :=
  (lives_turn dial arrivals out sc).becomes

end RemoteConsole.Scene
