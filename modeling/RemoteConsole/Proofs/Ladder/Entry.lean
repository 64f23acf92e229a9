import RemoteConsole.Ladder.Entry
import RemoteConsole.Proofs.Store.Records

namespace RemoteConsole.Ladder

def Entry.unranked (e : Entry) : Entry :=
  { e with rank := 0 }

theorem Entry.account_merge (e r : Entry) : (e.merge r).account = e.account := by
  dsimp only [merge]
  split <;> rfl

instance : Store.Storable Entry where
  stored := Entry.unranked
  signature_eq := rfl
  kinds _ := rfl
  ofValues_values _ := rfl
  since_le := by decide
  oldest_holds := by decide
  oldest_le := by decide

theorem Tally.eq_of_ofValues {vs rest : List Store.Value} {t : Tally}
    (h : Tally.ofValues? vs = some (t, rest)) : vs = t.values ++ rest := by
  unfold Tally.ofValues? at h
  split at h
  · cases h
    rfl
  · cases h

theorem Peaks.eq_of_ofValues {vs rest : List Store.Value} {k : Peaks}
    (h : Peaks.ofValues? vs = some (k, rest)) : vs = k.values ++ rest := by
  unfold Peaks.ofValues? at h
  split at h
  · cases h
    rfl
  · cases h

theorem Tally.ofValues?_of_kinds {vs : List Store.Value} {kinds : List Store.FieldKind}
    (h : vs.map Store.Value.kind = (Tally.values {}).map Store.Value.kind ++ kinds) :
    ∃ t rest, Tally.ofValues? vs = some (t, rest) ∧ rest.map Store.Value.kind = kinds := by
  simp only [Tally.values, List.map_cons, List.map_nil, Store.Value.kind, List.cons_append,
    List.nil_append, Store.map_kind_eq_cons] at h
  obtain ⟨score, _, rfl, kills, _, rfl, deaths, _, rfl, headshotKills, _, rfl,
    vehicleKills, _, rfl, buildingKills, _, rfl, defenceKills, _, rfl, captures, _, rfl,
    gameTime, _, rfl, games, _, rfl, wins, _, rfl, ties, _, rfl, beaconPlacements, _, rfl,
    beaconDisarms, _, rfl, minePlacements, _, rfl, mineDisarms, rest, rfl, hrest⟩ := h
  exact ⟨_, rest, rfl, hrest⟩

theorem Peaks.ofValues?_of_kinds {vs : List Store.Value} {kinds : List Store.FieldKind}
    (h : vs.map Store.Value.kind = (Peaks.values {}).map Store.Value.kind ++ kinds) :
    ∃ k rest, Peaks.ofValues? vs = some (k, rest) ∧ rest.map Store.Value.kind = kinds := by
  simp only [Peaks.values, List.map_cons, List.map_nil, Store.Value.kind, List.cons_append,
    List.nil_append, Store.map_kind_eq_cons] at h
  obtain ⟨score, _, rfl, kills, _, rfl, deaths, _, rfl, headshotKills, _, rfl,
    vehicleKills, _, rfl, buildingKills, _, rfl, defenceKills, _, rfl, captures, _, rfl,
    gameTime, _, rfl, beaconPlacements, _, rfl, beaconDisarms, _, rfl, minePlacements, _, rfl,
    mineDisarms, rest, rfl, hrest⟩ := h
  exact ⟨_, rest, rfl, hrest⟩

instance : Store.Complete Entry where
  isSome_ofValues {vs} h := by
    have hkinds : (Store.Record.schema Entry).fields.map Store.Field.kind =
        .word64 :: ((Tally.values {}).map Store.Value.kind ++
          ((Tally.values {}).map Store.Value.kind ++ ((Tally.values {}).map Store.Value.kind ++
            ((Peaks.values {}).map Store.Value.kind ++ [.word32, .word64, .text])))) := rfl
    rw [hkinds, Store.map_kind_eq_cons] at h
    obtain ⟨account, vs, rfl, h⟩ := h
    obtain ⟨totals, vs₁, htotals, h⟩ := Tally.ofValues?_of_kinds h
    obtain ⟨sideA, vs₂, hsideA, h⟩ := Tally.ofValues?_of_kinds h
    obtain ⟨sideB, vs₃, hsideB, h⟩ := Tally.ofValues?_of_kinds h
    obtain ⟨peaks, vs₄, hpeaks, h⟩ := Peaks.ofValues?_of_kinds h
    simp only [Store.map_kind_eq_cons, List.map_eq_nil_iff] at h
    obtain ⟨address, _, rfl, lastGame, _, rfl, name, _, rfl, rfl⟩ := h
    simp [Store.Record.ofValues?, htotals, hsideA, hsideB, hpeaks]

instance : Store.Faithful Entry where
  values_of_ofValues {vs e} h := by
    simp only [Store.Record.ofValues?] at h
    split at h
    · simp only [Option.bind_eq_bind, Option.bind_eq_some_iff] at h
      obtain ⟨⟨totals, vs₁⟩, htotals, ⟨sideA, vs₂⟩, hsideA, ⟨sideB, vs₃⟩, hsideB, ⟨peaks, vs₄⟩,
        hpeaks, hrest⟩ := h
      simp only at hsideA hsideB hpeaks hrest
      split at hrest
      · cases hrest
        rw [Tally.eq_of_ofValues htotals, Tally.eq_of_ofValues hsideA, Tally.eq_of_ofValues hsideB,
          Peaks.eq_of_ofValues hpeaks]
        simp only [Store.Record.values, List.append_assoc]
      · cases hrest
    · cases h

end RemoteConsole.Ladder
