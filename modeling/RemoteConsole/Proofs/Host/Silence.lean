import RemoteConsole.Proofs.Host.Asking

namespace RemoteConsole

namespace Scene

/-- When bytes arrived. -/
def receipts : Scene → List (Moment × Call) → List Instant
  | _, [] => []
  | sc, (t, call) :: calls =>
    (if call.reads sc then [t.now] else []) ++ (call.run t sc).receipts calls

/-- The connection is open before the calls, and after each of them. -/
def StaysOpen : Scene → List (Moment × Call) → Prop
  | sc, [] => sc.session.socket = true
  | sc, (t, call) :: calls => sc.session.socket = true ∧ (call.run t sc).StaysOpen calls

instance StaysOpen.decidable : (sc : Scene) → (calls : List (Moment × Call)) →
    Decidable (sc.StaysOpen calls)
  | sc, [] => inferInstanceAs (Decidable (sc.session.socket = true))
  | sc, (t, call) :: calls =>
    have := StaysOpen.decidable (call.run t sc) calls
    inferInstanceAs (Decidable (sc.session.socket = true ∧ (call.run t sc).StaysOpen calls))

/-- From some time on the clock never goes back. -/
def Clocked (now : Instant) (calls : List (Moment × Call)) : Prop :=
  (now :: calls.map (·.1.now)).Pairwise (·.millis ≤ ·.millis)

instance (now : Instant) (calls : List (Moment × Call)) : Decidable (Clocked now calls) :=
  inferInstanceAs (Decidable (List.Pairwise _ _))

theorem Clocked.left {now : Instant} {calls more : List (Moment × Call)}
    (h : Clocked now (calls ++ more)) : Clocked now calls := by
  rw [Clocked, List.map_append, ← List.cons_append, List.pairwise_append] at h
  exact h.1

theorem Clocked.until {now : Instant} {before : List (Moment × Call)} {t : Moment} {call : Call}
    (h : Clocked now (before ++ [(t, call)])) : now.millis ≤ t.now.millis ∧
      ∀ earlier ∈ before, earlier.1.now.millis ≤ t.now.millis := by
  rw [Clocked, List.map_append, ← List.cons_append, List.pairwise_append] at h
  obtain ⟨-, -, hcross⟩ := h
  refine ⟨hcross now List.mem_cons_self t.now List.mem_cons_self, fun earlier hearlier => ?_⟩
  exact hcross _ (List.mem_cons_of_mem _ (List.mem_map_of_mem hearlier)) t.now List.mem_cons_self

section Append

variable (sc : Scene) (calls more : List (Moment × Call))

theorem receipts_append :
    sc.receipts (calls ++ more) = sc.receipts calls ++ (sc.after calls).receipts more := by
  induction calls generalizing sc with
  | nil => rfl
  | cons call calls ih =>
      rw [List.cons_append, receipts, receipts, ih, List.append_assoc]
      rfl

theorem receipts_cons_eq_nil {sc : Scene} {t : Moment} {call : Call}
    {calls : List (Moment × Call)} (h : sc.receipts ((t, call) :: calls) = []) :
    call.reads sc = false ∧ (call.run t sc).receipts calls = [] := by
  rw [receipts, List.append_eq_nil_iff] at h
  cases hreads : call.reads sc with
  | false => exact ⟨rfl, h.2⟩
  | true =>
      rw [if_pos hreads] at h
      cases h.1

theorem StaysOpen.socket {sc : Scene} {calls : List (Moment × Call)} (h : sc.StaysOpen calls) :
    sc.session.socket = true := by
  cases calls with
  | nil => exact h
  | cons call calls => exact h.1

theorem StaysOpen.append {sc : Scene} {calls more : List (Moment × Call)}
    (h : sc.StaysOpen (calls ++ more)) : sc.StaysOpen calls ∧ (sc.after calls).StaysOpen more := by
  induction calls generalizing sc with
  | nil => exact ⟨h.socket, h⟩
  | cons call calls ih => exact ⟨⟨h.1, (ih h.2).1⟩, (ih h.2).2⟩

end Append

section Runs

variable {sc : Scene} (haligned : sc.session.Aligned) {calls : List (Moment × Call)}

include haligned

theorem settings_after : (sc.after calls).session.settings = sc.session.settings := by
  induction calls generalizing sc with
  | nil => rfl
  | cons call calls ih =>
      have hlistens := listens_run haligned call.1 call.2
      exact (ih (hlistens.aligned haligned)).trans hlistens.settings

theorem lastReceived_after_le {r : Instant} (hstart : sc.session.lastReceived.millis ≤ r.millis)
    (hcalls : ∀ call ∈ calls, call.1.now.millis ≤ r.millis) :
    (sc.after calls).session.lastReceived.millis ≤ r.millis := by
  induction calls generalizing sc with
  | nil => exact hstart
  | cons call calls ih =>
      obtain ⟨hcall, hcalls⟩ := List.forall_mem_cons.1 hcalls
      have hlistens := listens_run haligned call.1 call.2
      refine ih (hlistens.aligned haligned) ?_ hcalls
      rcases hlistens.lastReceived with hsame | hnow
      · rw [hsame]
        exact hstart
      · rw [hnow]
        exact hcall

theorem receipts_le {now : Instant} (hstart : sc.session.lastReceived.millis ≤ now.millis)
    (hclock : Clocked now calls) :
    sc.session.lastReceived.millis ≤ (sc.after calls).session.lastReceived.millis ∧
      ∀ u ∈ sc.receipts calls, u.millis ≤ (sc.after calls).session.lastReceived.millis := by
  induction calls generalizing sc now with
  | nil => exact ⟨Int.le_refl _, fun u hu => absurd hu List.not_mem_nil⟩
  | cons call calls ih =>
      obtain ⟨hnow, hclock⟩ := List.pairwise_cons.1 hclock
      have hcall : now.millis ≤ call.1.now.millis := hnow _ List.mem_cons_self
      have hlistens := listens_run haligned call.1 call.2
      have hfirst : sc.session.lastReceived.millis ≤
            (call.2.run call.1 sc).session.lastReceived.millis ∧
          (call.2.run call.1 sc).session.lastReceived.millis ≤ call.1.now.millis := by
        rcases hlistens.lastReceived with hsame | hnow
        · rw [hsame]
          omega
        · rw [hnow]
          omega
      obtain ⟨hmore, hrest⟩ := ih (hlistens.aligned haligned) hfirst.2 hclock
      refine ⟨Int.le_trans hfirst.1 hmore, fun u hu => ?_⟩
      rw [receipts] at hu
      rcases List.mem_append.1 hu with hu | hu
      · split at hu
        · rename_i hreads
          rw [List.mem_singleton.1 hu, ← lastReceived_run haligned hreads]
          exact hmore
        · exact absurd hu List.not_mem_nil
      · exact hrest u hu

theorem lingers_after (hsilent : sc.receipts calls = []) (hopen : sc.StaysOpen calls) :
    sc.session.Lingers (sc.after calls).session ∧ (sc.after calls).session.socket = true := by
  induction calls generalizing sc with
  | nil => exact ⟨.refl _, hopen⟩
  | cons call calls ih =>
      obtain ⟨hnone, hsilent⟩ := receipts_cons_eq_nil hsilent
      have hlingers := lingers_run haligned hnone hopen.1 hopen.2.socket
      obtain ⟨hrest, hlast⟩ := ih ((listens_run haligned call.1 call.2).aligned haligned)
        hsilent hopen.2
      exact ⟨hlingers.trans hrest, hlast⟩

theorem lastReceived_mem_receipts (haccepted : (sc.after calls).session.stage.isAccepted = true) :
    (sc.after calls).session.lastReceived ∈ sc.receipts calls ∨
      sc.session.stage.isAccepted = true ∧
        (sc.after calls).session.lastReceived = sc.session.lastReceived := by
  induction calls generalizing sc with
  | nil => exact .inr ⟨haccepted, rfl⟩
  | cons call calls ih =>
      obtain ⟨t, call⟩ := call
      have hfirst := (listens_run haligned t call).aligned haligned
      rw [receipts, List.mem_append]
      rcases ih hfirst haccepted with hmem | ⟨haccepted', hsame⟩
      · exact .inl (.inr hmem)
      · cases hreads : call.reads sc with
        | true =>
            have hnow := hsame.trans (lastReceived_run haligned hreads)
            exact .inl (.inl (List.mem_singleton.2 hnow))
        | false =>
            have hlingers := lingers_of_accepted haligned hreads haccepted'
            exact .inr ⟨hlingers.accepted ▸ haccepted', hsame.trans hlingers.lastReceived⟩

variable (haccepted : sc.session.stage.isAccepted = true) {quiet : List (Moment × Call)}
  {t : Moment} {dial : Dial} {arrivals : List Arrival} {out : Outflow}
  (hsilent : sc.receipts (quiet ++ [(t, .turn dial arrivals out)]) = [])
  (hstays : sc.StaysOpen quiet) {r : Instant}
  (hr : sc.session.lastReceived.millis ≤ r.millis)

include haccepted hsilent hstays hr

/-- After a silence as long as it may be, a turn asks for a sign of life if nobody has. -/
theorem asked_in_silence (hlong : r.millis + sc.session.settings.pingRate ≤ t.now.millis) :
    (sc.after (quiet ++ [(t, .turn dial arrivals out)])).session.socket = false ∨
      (sc.after (quiet ++ [(t, .turn dial arrivals out)])).session.pingSentAt.isSome := by
  rw [receipts_append, List.append_eq_nil_iff] at hsilent
  obtain ⟨hlingers, hsocket⟩ := lingers_after haligned hsilent.1 hstays
  have haligned' := aligned_after haligned quiet
  rw [after_append]
  generalize sc.after quiet = still at hsilent hlingers hsocket haligned'
  change (still.turn t dial arrivals out).session.socket = false ∨
    (still.turn t dial arrivals out).session.pingSentAt.isSome
  cases hopen : (still.turn t dial arrivals out).session.socket with
  | false => exact .inl rfl
  | true =>
      right
      have hlast : still.session.Lingers (still.turn t dial arrivals out).session :=
        lingers_run haligned' (receipts_cons_eq_nil hsilent.2).1 hsocket hopen
      have hall := hlingers.trans hlast
      rcases attentive_turn haligned' dial arrivals out hopen (hall.accepted.trans haccepted) with
        hping | ⟨-, hreceived⟩
      · exact hping
      · refine absurd hreceived (Nat.not_lt.2 ?_)
        rw [hall.settings, hall.lastReceived]
        exact Instant.le_since (by omega)

/-- An answer that does not come is not awaited for longer than it may take. -/
theorem closed_in_silence {first rest : List (Moment × Call)} {sent : Instant}
    (hquiet : quiet = first ++ rest) (hping : (sc.after first).session.pingSentAt = some sent)
    (hlong : max r.millis sent.millis + sc.session.settings.pingTimeout ≤ t.now.millis) :
    (sc.after (quiet ++ [(t, .turn dial arrivals out)])).session.socket = false := by
  rw [receipts_append, List.append_eq_nil_iff] at hsilent
  obtain ⟨hlingers, hsocket⟩ := lingers_after haligned hsilent.1 hstays
  have haligned' := aligned_after haligned quiet
  have hstill : (sc.after quiet).session.pingSentAt = some sent := by
    rw [hquiet, receipts_append, List.append_eq_nil_iff] at hsilent
    rw [hquiet, after_append]
    exact (lingers_after (aligned_after haligned first) hsilent.1.2
      (hquiet ▸ hstays).append.2).1.pingSentAt sent hping
  rw [after_append]
  change ((sc.after quiet).turn t dial arrivals out).session.socket = false
  cases hopen : ((sc.after quiet).turn t dial arrivals out).session.socket with
  | false => rfl
  | true =>
      have hpatient := patient_turn haligned' hsocket (receipts_cons_eq_nil hsilent.2).1 hopen
        (hlingers.accepted.trans haccepted) hstill
      rw [hlingers.settings, hlingers.lastReceived] at hpatient
      refine absurd hpatient (Nat.not_lt.2 (Instant.le_since ?_))
      rw [Instant.millis_max]
      omega

end Runs

/-- Whoever has sent bytes not long ago is not given up for want of an answer. -/
theorem heard_keepalive {sc : Scene} {t : Moment} (dial : Dial) {arrivals : List Arrival}
    (out : Outflow) {u : Instant}
    (hu : u.millis ≤ sc.session.lastReceived.millis ∨
      (Call.turn dial arrivals out).reads sc = true ∧ u = t.now)
    (hnow : sc.session.lastReceived.millis ≤ t.now.millis)
    (hrecent : t.now.millis < u.millis + sc.session.settings.pingTimeout) :
    ((sc.arriveAll t arrivals).session.keepalive t).socket =
      (sc.arriveAll t arrivals).session.socket := by
  have hlistens := sc.listens_arriveAll t arrivals
  have hheard : u.millis ≤ (sc.arriveAll t arrivals).session.lastReceived.millis ∧
      (sc.arriveAll t arrivals).session.lastReceived.millis ≤ t.now.millis := by
    rcases hu with hu | ⟨hreads, rfl⟩
    · rcases hlistens.lastReceived with hsame | hsame
      · rw [hsame]
        exact ⟨hu, hnow⟩
      · rw [hsame]
        exact ⟨Int.le_trans hu hnow, Int.le_refl _⟩
    · rw [sc.lastReceived_arriveAll t hreads]
      exact ⟨Int.le_refl _, Int.le_refl _⟩
  refine Session.keepalive_socket _ t (Instant.since_lt ?_ hheard.2)
  rw [hlistens.settings]
  omega

section Start

variable {host : Host} {settings : ServerSettings} {now : Instant}

theorem aligned_start : (start host settings now).session.Aligned :=
  ⟨rfl, fun _ => rfl⟩

theorem last_receipt {calls : List (Moment × Call)} (hclock : Clocked now calls)
    (haccepted : ((start host settings now).after calls).session.stage.isAccepted = true) :
    ((start host settings now).after calls).session.lastReceived ∈
        (start host settings now).receipts calls ∧
      ∀ u ∈ (start host settings now).receipts calls,
        u.millis ≤ ((start host settings now).after calls).session.lastReceived.millis := by
  refine ⟨?_, (receipts_le aligned_start (Int.le_refl _) hclock).2⟩
  exact (lastReceived_mem_receipts aligned_start haccepted).resolve_right nofun

theorem keepalive_after_receipt {before : List (Moment × Call)} {t : Moment} {dial : Dial}
    {arrivals : List Arrival} {out : Outflow}
    (hclock : Clocked now (before ++ [(t, .turn dial arrivals out)])) {u : Instant}
    (hu : u ∈ (start host settings now).receipts (before ++ [(t, .turn dial arrivals out)]))
    (hrecent : t.now.millis < u.millis + settings.pingTimeout) :
    ((((start host settings now).after before).arriveAll t arrivals).session.keepalive t).socket =
      (((start host settings now).after before).arriveAll t arrivals).session.socket := by
  obtain ⟨hnow, hearlier⟩ := hclock.until
  have hlate : ((start host settings now).after before).session.lastReceived.millis ≤
      t.now.millis := lastReceived_after_le aligned_start hnow hearlier
  refine heard_keepalive dial out ?_ hlate (by rwa [settings_after aligned_start])
  rw [receipts_append, List.mem_append] at hu
  rcases hu with hu | hu
  · exact .inl ((receipts_le aligned_start (Int.le_refl _) hclock.left).2 u hu)
  · right
    rw [receipts, receipts, List.append_nil] at hu
    split at hu
    · rename_i hreads
      exact ⟨hreads, List.mem_singleton.1 hu⟩
    · exact absurd hu List.not_mem_nil

end Start

end Scene

end RemoteConsole
