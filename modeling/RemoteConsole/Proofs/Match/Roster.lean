import RemoteConsole.Proofs.Match.Players

namespace RemoteConsole

open Match (Player)

def Event.brought? : Event → Option PlayerId
  | .playerJoin p | .playerDiscovered p => some p.id
  | _ => none

namespace Match

theorem told_keeps {α β : Type} (g : α → β) {f : α → String → α} (h : ∀ a v, g (f a v) = g a)
    (cell : Option String) (a : α) : g (told cell f a) = g a := by
  cases cell with
  | none => rfl
  | some v => exact h a v

namespace Table

variable (t : Table)

theorem updatePlayer_id (row : List String) (p : Player) : (t.updatePlayer row p).id = p.id := by
  have hip (cell : Option String) (p : Player) : (told cell Player.setIp p).id = p.id :=
    told_keeps Player.id (f := Player.setIp) (fun _ _ => rfl) cell p
  simp (disch := intros; rfl) only [updatePlayer, hip, told_keeps Player.id]

end Table

namespace Model

variable (now : Instant) (m : Model)

theorem ids_add (p : Player) : (m.add p).ids = m.ids ++ [p.id] := by
  simp [ids, add]

theorem ids_edit {id : PlayerId} {f : Player → Player} (hf : ∀ p, (f p).id = p.id) :
    (m.edit id f).ids = m.ids := by
  rw [ids, edit, map_changeFirst (q := (· == id)) (h := fun i => i) (fun _ => rfl) hf]
  exact changeFirst_of_forall fun _ _ _ => rfl

theorem ids_replace {id : PlayerId} {p : Player} (hp : p.id = id) :
    (m.edit id fun _ => p).ids = m.ids := by
  rw [ids, edit, map_changeFirst (q := (· == id)) (h := fun _ => id) (fun _ => rfl) fun _ => hp]
  exact changeFirst_of_forall fun i _ hi => (beq_iff_eq.1 hi).symm

/-- The rows that were read brought those who were discovered, behind the players who were known,
and each of them once. -/
structure Discovers (known : List PlayerId) (state : Model × List Event) : Prop where
  ids : state.1.ids = known ++ state.2.filterMap Event.brought?
  discovered : ∀ e ∈ state.2, ∃ p, e = .playerDiscovered p
  distinct : known.Nodup → state.1.ids.Nodup

theorem discovers_rosterRow {known : List PlayerId} {state : Model × List Event} (t : Table)
    (h : Discovers known state) (row : List String) :
    Discovers known (rosterRow now t state row) := by
  obtain ⟨m, events⟩ := state
  unfold rosterRow
  cases hid : t.playerId? row with
  | none => exact h
  | some cell =>
      obtain ⟨id, isBot⟩ := cell
      simp only
      split
      · have hsame : (m.edit id (t.updatePlayer row)).ids = m.ids :=
          m.ids_edit (t.updatePlayer_id row)
        refine ⟨hsame.trans h.ids, h.discovered, fun hknown => ?_⟩
        rw [hsame]
        exact h.distinct hknown
      · rename_i hnew
        rw [isSome_player?] at hnew
        generalize hbrought : t.updatePlayer row
          { id, name := (t.cell? row "Name").getD "", isBot, joinedAt := now } = brought
        have hsame : brought.id = id := by rw [← hbrought, t.updatePlayer_id]
        refine ⟨?_, ?_, fun hknown => ?_⟩
        · rw [ids_add, h.ids, List.filterMap_append, List.append_assoc]
          rfl
        · intro e he
          rcases List.mem_append.1 he with he | he
          · exact h.discovered e he
          · exact ⟨brought, List.mem_singleton.1 he⟩
        · rw [ids_add, hsame, List.nodup_append]
          refine ⟨h.distinct hknown, by simp, fun a ha b hb => ?_⟩
          rw [List.mem_singleton.1 hb]
          exact fun heq => hnew (heq ▸ ha)

theorem discovers_rows {known : List PlayerId} (t : Table) (rows : List (List String))
    {state : Model × List Event} (h : Discovers known state) :
    Discovers known (rows.foldl (rosterRow now t) state) := by
  induction rows generalizing state with
  | nil => exact h
  | cons row rows ih =>
      rw [List.foldl_cons]
      exact ih (discovers_rosterRow now t h row)

theorem discovers_roster (t : Table) : Discovers m.ids (t.rows.foldl (rosterRow now t) (m, [])) :=
  discovers_rows now t t.rows
    ⟨(List.append_nil _).symm, fun _ he => absurd he List.not_mem_nil, fun hknown => hknown⟩

/-- Who is there after an answer was there before or is brought by its events, never both. -/
structure Refreshes (m : Model) (result : Model × List Event) : Prop where
  brought : ∀ id ∈ result.1.ids, id ∈ m.ids ∨ id ∈ result.2.filterMap Event.brought?
  strangers : m.ids.Nodup → ∀ id ∈ m.ids, id ∉ result.2.filterMap Event.brought?
  distinct : m.ids.Nodup → result.1.ids.Nodup

theorem refreshes_applyRoster (t : Table) : Refreshes m (m.applyRoster now t) := by
  have hrows := discovers_roster now m t
  unfold applyRoster
  split
  · exact ⟨fun id hid => .inl hid, fun _ _ _ => List.not_mem_nil, fun hknown => hknown⟩
  · generalize t.rows.foldl (rosterRow now t) (m, []) = state at hrows
    obtain ⟨left, events⟩ := state
    have hkept : (left.players.filter fun p =>
        (t.rows.filterMap fun row => (t.playerId? row).map Prod.fst).contains p.id).map (·.id)
          |>.Sublist left.ids := List.filter_sublist.map _
    refine ⟨fun id hid => ?_, fun hknown id hid hbrought => ?_,
      fun hknown => (hrows.distinct hknown).sublist hkept⟩
    · have hin := hkept.subset hid
      rw [hrows.ids] at hin
      exact List.mem_append.1 hin
    · have hdistinct := hrows.distinct hknown
      rw [hrows.ids, List.nodup_append] at hdistinct
      exact hdistinct.2.2 id hid id hbrought rfl

theorem applyTable_of_roster (t : Table) (h : t.verb = "clientvarlist") :
    m.applyTable now t = m.applyRoster now t := by
  simp only [applyTable, h]

theorem applyTable_of_not_roster (t : Table) (h : t.verb ≠ "clientvarlist") :
    (m.applyTable now t).1.players = m.players ∧ (m.applyTable now t).2 = [] := by
  have htold {f : Model → String → Model} (hf : ∀ m v, (f m v).players = m.players)
      (cell : Option String) (m : Model) : (told cell f m).players = m.players :=
    told_keeps Model.players hf cell m
  unfold applyTable
  split
  · contradiction
  · exact ⟨rfl, rfl⟩
  · refine ⟨?_, rfl⟩
    unfold applyInfo
    split
    · rfl
    · rw [htold, htold]
      · intro m v
        split <;> rfl
      · exact fun _ _ => rfl
  · refine ⟨?_, rfl⟩
    unfold applyRotation
    dsimp only
    split <;> rfl
  · exact ⟨rfl, rfl⟩

theorem applyTable_cases (t : Table) :
    m.applyTable now t = m.applyRoster now t ∨
      ((m.applyTable now t).1.players = m.players ∧ (m.applyTable now t).2 = []) := by
  by_cases h : t.verb = "clientvarlist"
  · exact .inl (m.applyTable_of_roster now t h)
  · exact .inr (m.applyTable_of_not_roster now t h)

theorem refreshes_applyTable (t : Table) : Refreshes m (m.applyTable now t) := by
  rcases m.applyTable_cases now t with hroster | ⟨hplayers, hnone⟩
  · rw [hroster]
    exact m.refreshes_applyRoster now t
  · have hsame : (m.applyTable now t).1.ids = m.ids := by rw [ids, hplayers, ids]
    exact ⟨fun id hid => .inl (hsame ▸ hid), fun _ _ _ => by simp [hnone],
      fun hknown => by rw [hsame]; exact hknown⟩

end Model

end Match

end RemoteConsole
