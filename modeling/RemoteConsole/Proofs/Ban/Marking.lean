import RemoteConsole.Proofs.Ban.Checking
import RemoteConsole.Proofs.Match.Ids

namespace RemoteConsole

open Match (Identity Model Player newcomer welcome welcomeAll identitiesAfter changeFirst)

namespace Ban.Entry

variable (b : Entry)

/-- A player whom the ban concerns carries what it forbids. -/
def Marks (p : Player) : Prop :=
  b.concerns p → p.banFlags.contains b.flags.kinds

def MarksAs (i : Identity) : Prop :=
  ∀ p : Player, p.identity = i → b.Marks p

variable {b}

theorem marksAs_identity {p : Player} : b.MarksAs p.identity ↔ b.Marks p := by
  refine ⟨fun h => h p rfl, fun h q hq => ?_⟩
  simp only [Player.identity, Identity.mk.injEq] at hq
  obtain ⟨-, haddress, hhardware, haccount, hflags⟩ := hq
  simp only [Marks, concerns, haddress, hhardware, haccount, hflags] at h ⊢
  exact h

theorem marksAs_identities {m : Model} :
    (∀ i ∈ m.identities, b.MarksAs i) ↔ ∀ p ∈ m.players, b.Marks p := by
  rw [Model.identities, List.forall_mem_map]
  exact forall₂_congr fun _ _ => marksAs_identity

theorem marksAs_newcomer (id : PlayerId) : b.MarksAs (newcomer id) := by
  intro p hp hconcerns
  simp only [Player.identity, newcomer, Identity.mk.injEq] at hp
  obtain ⟨-, haddress, hhardware, haccount, -⟩ := hp
  simp only [concerns, haddress, hhardware, haccount, Address.isKnown, Address.unknown] at hconcerns
  grind

theorem MarksAs.withId {i : Identity} (h : b.MarksAs i) (id : PlayerId) :
    b.MarksAs { i with id } := by
  intro p hp
  simp only [Player.identity, Identity.mk.injEq] at hp
  obtain ⟨-, hrest⟩ := hp
  exact h { p with id := i.id } (by simp only [Player.identity, hrest])

theorem marksAs_welcomeAll {known : List Identity} (h : ∀ i ∈ known, b.MarksAs i)
    (tags : List GameLog.PlayerTag) : ∀ i ∈ welcomeAll known tags, b.MarksAs i := by
  unfold welcomeAll
  generalize tags.map (·.id) = ids
  induction ids generalizing known with
  | nil => exact h
  | cons id ids ih =>
      refine ih ?_
      unfold welcome
      split
      · exact h
      · rw [List.forall_mem_append]
        exact ⟨h, List.forall_mem_singleton.2 (marksAs_newcomer id)⟩

theorem marks_or_brought {m : Model} (h : ∀ p ∈ m.players, b.Marks p) (now : Instant)
    (e : GameLog.Entry) : ∀ p ∈ (m.apply now e).1.players,
      b.Marks p ∨ p.id ∈ (m.apply now e).2.filterMap Event.brought? := by
  rw [← marksAs_identities] at h
  intro p hp
  have hi : p.identity ∈ identitiesAfter m.identities e := by
    rw [← m.identities_apply now e]
    exact List.mem_map_of_mem hp
  cases e with
  | playerEnter tag ip hardwareId account =>
      rcases List.mem_append.1 hi with hi | hi
      · exact .inl (marksAs_identity.1 (h _ (List.mem_of_mem_eraseP hi)))
      · have hid : p.id = tag.id := congrArg Identity.id (List.mem_singleton.1 hi)
        exact .inr (hid ▸ List.mem_singleton_self _)
  | playerExit tag => exact .inl (marksAs_identity.1 (h _ (List.mem_of_mem_eraseP hi)))
  | idChange oldId newId =>
      rcases Match.mem_changeFirst hi with hi | ⟨i, hmem, -, heq⟩
      · exact .inl (marksAs_identity.1 (h _ hi))
      · exact .inl (marksAs_identity.1 (heq ▸ (h i hmem).withId newId))
  | _ => exact .inl (marksAs_identity.1 (marksAs_welcomeAll h _ _ hi))

end Ban.Entry

namespace Match

/-- Ids are distinct, and nobody whom the ban concerns goes without its mark. -/
structure Screened (b : Ban.Entry) (m : Model) : Prop where
  distinct : m.Distinct
  marked : ∀ p ∈ m.players, b.Marks p

variable {b : Ban.Entry} {m : Model}

theorem screened_of_nobody (h : m.players = []) : Screened b m where
  distinct := by simp [Model.Distinct, Model.ids, h]
  marked := by simp [h]

theorem Screened.of_identities (h : Screened b m) {after : Model}
    (hsame : after.identities = m.identities ∨ after.identities = []) : Screened b after := by
  have hparts {m : Model} :
      Screened b m ↔ (m.identities.map (·.id)).Nodup ∧ ∀ i ∈ m.identities, b.MarksAs i := by
    rw [Ban.Entry.marksAs_identities, Model.map_id_identities]
    exact ⟨fun h => ⟨h.distinct, h.marked⟩, fun h => ⟨h.1, h.2⟩⟩
  rcases hsame with hsame | hnone
  · rw [hparts, hsame, ← hparts]
    exact h
  · exact hparts.2 (by simp [hnone])

theorem Screened.replace (h : Screened b m) {p : Player} (hp : b.Marks p) :
    Screened b (m.edit p.id fun _ => p) where
  distinct := by
    rw [Model.Distinct, m.ids_replace rfl]
    exact h.distinct
  marked := by
    intro q hq
    rcases mem_changeFirst hq with hq | ⟨-, -, -, rfl⟩
    · exact h.marked q hq
    · exact hp

end Match

end RemoteConsole
