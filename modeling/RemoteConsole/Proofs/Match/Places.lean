import Mathlib.Data.List.InsertIdx
import RemoteConsole.Proofs.Match.Changes
import RemoteConsole.Proofs.Match.Lookups

namespace RemoteConsole.Match

open GameLog (Entry PlayerTag)

theorem map_eraseP {α β : Type} (p : α → Bool) (g : α → β) (xs : List α) :
    (xs.eraseP p).map g = (xs.map g).eraseIdx (xs.findIdx p) := by
  induction xs with
  | nil => rfl
  | cons x xs ih =>
      by_cases hx : p x
      · rw [List.eraseP_cons_of_pos hx, List.findIdx_cons, hx]
        rfl
      · rw [List.eraseP_cons_of_neg hx, List.findIdx_cons, Bool.eq_false_iff.2 hx]
        exact congrArg _ ih

theorem map_changeFirst_of_find? {α β : Type} {p : α → Bool} {f : α → α} {g : α → β} {xs : List α}
    (h : ∀ x ∈ xs.find? p, g (f x) = g x) : (changeFirst p f xs).map g = xs.map g := by
  induction xs with
  | nil => rfl
  | cons x xs ih =>
      rw [changeFirst]
      by_cases hx : p x
      · rw [List.find?_cons_of_pos hx] at h
        rw [if_pos hx, List.map_cons, h x rfl, List.map_cons]
      · rw [List.find?_cons_of_neg hx] at h
        rw [if_neg hx, List.map_cons, ih h, List.map_cons]

/-- The labels of those who satisfy `q`. -/
def labelsOf {α β : Type} (q : α → Bool) (xs : List α) (labels : List β) : List β :=
  ((xs.zip labels).filter fun place => q place.1).map Prod.snd

section Labels

variable {α β γ : Type} (q : α → Bool) (xs : List α)

theorem labelsOf_map (g : β → γ) (labels : List β) :
    labelsOf q xs (labels.map g) = (labelsOf q xs labels).map g := by
  rw [labelsOf, labelsOf, List.zip_map_right, List.filter_map, List.map_map, List.map_map]
  rfl

theorem labelsOf_map_self (g : α → β) : labelsOf q xs (xs.map g) = (xs.filter q).map g := by
  rw [labelsOf_map]
  congr 1
  induction xs with
  | nil => rfl
  | cons x xs ih =>
      rw [labelsOf] at ih ⊢
      by_cases hx : q x
      · simp [hx, ih]
      · simp [hx, ih]

theorem labelsOf_sublist {labels : List β} (h : labels.length ≤ xs.length) :
    (labelsOf q xs labels).Sublist labels := by
  have hkept : (labelsOf q xs labels).Sublist ((xs.zip labels).map Prod.snd) :=
    List.filter_sublist.map Prod.snd
  rw [List.map_snd_zip h] at hkept
  exact hkept

end Labels

def Table.keeps (t : Table) (id : PlayerId) : Bool :=
  t.verb != "clientvarlist" || (t.column? "ID").isNone && (t.column? "PlayerID").isNone ||
    t.ids.contains id

namespace Model

/-- The labels of those who stay through a line. One who joins under their id takes the place of
whoever had it. -/
def staying {α : Type} (m : Model) (e : Entry) (labels : List α) : List α :=
  match e with
  | .playerEnter tag .. | .playerExit tag =>
    labels.eraseIdx (m.players.findIdx (·.id == tag.id))
  | _ => labels

/-- The labels of those who stay through an answer. -/
def stayingIn {α : Type} (m : Model) (t : Table) (labels : List α) : List α :=
  labelsOf (fun p => t.keeps p.id) m.players labels

section Labels

variable {α β : Type} (m : Model) (e : Entry) (t : Table) {labels : List α}

theorem staying_map (g : α → β) (labels : List α) :
    m.staying e (labels.map g) = (m.staying e labels).map g := by
  unfold staying
  split
  · exact List.eraseIdx_map g labels _
  · exact List.eraseIdx_map g labels _
  · rfl

theorem stayingIn_map (g : α → β) (labels : List α) :
    m.stayingIn t (labels.map g) = (m.stayingIn t labels).map g :=
  labelsOf_map _ _ g labels

theorem staying_sublist : (m.staying e labels).Sublist labels := by
  unfold staying
  split
  · exact List.eraseIdx_sublist _ _
  · exact List.eraseIdx_sublist _ _
  · exact .refl labels

theorem stayingIn_sublist (h : labels.length ≤ m.players.length) :
    (m.stayingIn t labels).Sublist labels :=
  labelsOf_sublist _ _ h

end Labels

def dates (m : Model) : List Instant :=
  m.players.map (·.joinedAt)

/-- Those who were there have stayed, and others have joined behind them. -/
def Grows (now : Instant) (stayed : List Instant) (after : Model) : Prop :=
  ∃ n, after.dates = stayed ++ List.replicate n now

section Lines

variable {now : Instant} {m after : Model} {stayed : List Instant}

theorem dates_edit {f : Player → Player} (hf : ∀ p, (f p).joinedAt = p.joinedAt) (id : PlayerId) :
    (m.edit id f).dates = m.dates :=
  map_changeFirst_of_find? fun p _ => hf p

theorem dates_replace {id : PlayerId} {p q : Player} (hp : m.player? id = some p)
    (hq : q.joinedAt = p.joinedAt) : (m.edit id fun _ => q).dates = m.dates := by
  refine map_changeFirst_of_find? fun x hx => ?_
  rw [← Option.some.inj (hp.symm.trans hx)]
  exact hq

namespace Grows

theorem refl (now : Instant) (m : Model) : Grows now m.dates m :=
  ⟨0, (List.append_nil _).symm⟩

theorem of_dates (h : Grows now stayed m) (hsame : after.dates = m.dates) :
    Grows now stayed after := by
  rw [Grows, hsame]
  exact h

theorem edit (h : Grows now stayed m) {f : Player → Player}
    (hf : ∀ p, (f p).joinedAt = p.joinedAt) (id : PlayerId) : Grows now stayed (m.edit id f) :=
  h.of_dates (dates_edit hf id)

theorem add (h : Grows now stayed m) {p : Player} (hp : p.joinedAt = now) :
    Grows now stayed (m.add p) := by
  obtain ⟨n, hn⟩ := h
  refine ⟨n + 1, ?_⟩
  have hlast : (m.add p).dates = m.dates ++ [p.joinedAt] := by simp [dates, Model.add]
  rw [hlast, hn, hp, List.append_assoc, List.replicate_succ']

theorem touch (h : Grows now stayed m) (tag : PlayerTag) : Grows now stayed (m.touch now tag) := by
  unfold Model.touch
  split
  · split
    · exact h
    · refine h.edit ?_ tag.id
      exact fun _ => rfl
  · exact h.add rfl

end Grows

theorem kept_grows (now : Instant) (stayed : List Instant) :
    Kept now now fun m _ => Grows now stayed m where
  touch := Grows.touch
  edit h hf id := h.edit hf.joinedAt id
  players h hafter _ := h.of_dates (by rw [dates, hafter, dates])

theorem grows_apply (m : Model) (e : Entry) :
    Grows now (m.staying e m.dates) (m.apply now e).1 := by
  have hrefl := Grows.refl now m
  have hremoved (tag : PlayerTag) :
      Grows now (m.dates.eraseIdx (m.players.findIdx (·.id == tag.id))) (m.remove tag.id) := by
    have hleft := Grows.refl now (m.remove tag.id)
    rw [dates, remove, map_eraseP] at hleft
    exact hleft
  cases e with
  | playerEnter tag ip hardwareId account => exact (hremoved tag).add rfl
  | playerExit tag => exact hremoved tag
  | idChange oldId newId =>
      rw [apply, changeId]
      split
      · exact hrefl
      · refine hrefl.edit ?_ oldId
        exact fun _ => rfl
  | matchStart map => exact hrefl.of_dates List.map_map
  | _ => exact @Kept.apply now now _ m m (kept_grows now m.dates) hrefl _ not_false

end Lines

section Answers

variable {now : Instant} {m : Model} {t : Table}

def marks (m : Model) : List (PlayerId × Instant) :=
  m.players.map fun p => (p.id, p.joinedAt)

/-- Those with these marks are there, and behind them others who have joined now. -/
def Gains (now : Instant) (known : List (PlayerId × Instant)) (after : Model) : Prop :=
  ∃ came : List (PlayerId × Instant), (∀ mark ∈ came, mark.2 = now) ∧ after.marks = known ++ came

namespace Gains

theorem refl (now : Instant) (m : Model) : Gains now m.marks m :=
  ⟨[], fun _ h => absurd h List.not_mem_nil, (List.append_nil _).symm⟩

theorem trans {between after : Model} {known : List (PlayerId × Instant)}
    (h : Gains now known between) (h' : Gains now between.marks after) :
    Gains now known after := by
  obtain ⟨first, hfirst, hbetween⟩ := h
  obtain ⟨came, hcame, hafter⟩ := h'
  refine ⟨first ++ came, fun mark hmark => ?_, ?_⟩
  · exact (List.mem_append.1 hmark).elim (hfirst mark) (hcame mark)
  · rw [hafter, hbetween, List.append_assoc]

theorem filter {after : Model} {known : List (PlayerId × Instant)} (h : Gains now known after)
    (q : PlayerId → Bool) :
    Gains now (known.filter fun mark => q mark.1)
      { after with players := after.players.filter fun p => q p.id } := by
  obtain ⟨came, hcame, hafter⟩ := h
  refine ⟨came.filter fun mark => q mark.1,
    fun mark hmark => hcame mark (List.mem_of_mem_filter hmark), ?_⟩
  rw [← List.filter_append, ← hafter, marks, marks, List.filter_map]
  rfl

end Gains

theorem gains_rosterRow (now : Instant) (t : Table) (state : Model × List Event)
    (row : List String) : Gains now state.1.marks (rosterRow now t state row).1 := by
  obtain ⟨m, events⟩ := state
  unfold rosterRow
  cases t.playerId? row with
  | none => exact .refl now m
  | some cell =>
      obtain ⟨id, isBot⟩ := cell
      simp only
      split
      · refine ⟨[], fun _ h => absurd h List.not_mem_nil, ?_⟩
        rw [List.append_nil]
        refine map_changeFirst_of_find? fun p _ => ?_
        rw [t.updatePlayer_id, (mild_updatePlayer t row).joinedAt]
      · refine ⟨[(id, now)], fun mark hmark => by rw [List.mem_singleton.1 hmark], ?_⟩
        simp [marks, add, t.updatePlayer_id, (mild_updatePlayer t row).joinedAt]

theorem gains_rosterRows (now : Instant) (t : Table) (rows : List (List String))
    (state : Model × List Event) :
    Gains now state.1.marks (rows.foldl (rosterRow now t) state).1 := by
  induction rows generalizing state with
  | nil => exact .refl now state.1
  | cons row rows ih =>
      rw [List.foldl_cons]
      exact (gains_rosterRow now t state row).trans (ih _)

theorem dates_eq_marks (m : Model) : m.dates = m.marks.map Prod.snd := by
  rw [dates, marks, List.map_map]
  rfl

theorem stayingIn_dates (m : Model) (t : Table) :
    m.stayingIn t m.dates = (m.marks.filter fun mark => t.keeps mark.1).map Prod.snd := by
  have hdates (q : PlayerId → Bool) : (m.marks.filter fun mark => q mark.1).map Prod.snd =
      (m.players.filter fun p => q p.id).map (·.joinedAt) := by
    rw [marks, List.filter_map, List.map_map]
    rfl
  rw [hdates]
  exact labelsOf_map_self _ _ _

theorem gains_applyTable (now : Instant) (m : Model) (t : Table) :
    Gains now (m.marks.filter fun mark => t.keeps mark.1) (m.applyTable now t).1 := by
  have hall (h : t.keeps = fun _ => true) :
      (m.marks.filter fun mark => t.keeps mark.1) = m.marks := by
    rw [h, List.filter_true]
  by_cases hverb : t.verb = "clientvarlist"
  · rw [m.applyTable_of_roster now t hverb, applyRoster]
    by_cases hnone : (t.column? "ID").isNone && (t.column? "PlayerID").isNone
    · have hkeeps : t.keeps = fun _ => true := by
        funext id
        rw [Table.keeps, hnone, Bool.or_true, Bool.true_or]
      rw [if_pos hnone, hall hkeeps]
      exact .refl now m
    · have hkeeps : t.keeps = t.ids.contains := by
        funext id
        rw [Table.keeps, Bool.eq_false_iff.2 hnone, hverb, bne_self_eq_false, Bool.false_or,
          Bool.false_or]
      rw [if_neg hnone, hkeeps]
      exact (gains_rosterRows now t t.rows (m, [])).filter t.ids.contains
  · have hkeeps : t.keeps = fun _ => true := by
      funext id
      rw [Table.keeps, bne_iff_ne.2 hverb, Bool.true_or, Bool.true_or]
    rw [hall hkeeps, Gains, marks, marks, (m.applyTable_of_not_roster now t hverb).1]
    exact Gains.refl now m

theorem grows_applyTable (m : Model) (t : Table) :
    Grows now (m.stayingIn t m.dates) (m.applyTable now t).1 := by
  obtain ⟨came, hcame, hmarks⟩ := gains_applyTable now m t
  refine ⟨came.length, ?_⟩
  rw [dates_eq_marks, hmarks, List.map_append, stayingIn_dates,
    List.map_eq_replicate_iff.2 hcame]

end Answers

end Model

end RemoteConsole.Match
