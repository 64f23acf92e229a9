import RemoteConsole.Proofs.Match.Backdrop
import RemoteConsole.Proofs.Match.Ids

namespace RemoteConsole.Match

open GameLog (Entry)

theorem is_congr {name other : String} (h : Text.sameLetters name other) :
    (fun map : Map => map.is name) = fun map => map.is other := by
  have hletters : name.toList.map Char.toLower = other.toList.map Char.toLower := beq_iff_eq.1 h
  funext map
  rw [Map.is, Map.is, Text.sameLetters, Text.sameLetters, hletters]

namespace Model

/-- Where the rotation has an entry of the current map's name, the map has the number of the first
such entry. -/
def Linked (m : Model) : Prop :=
  ∀ entry ∈ m.rotation.find? (·.is m.map.name), m.map.guid = entry.guid

instance : DecidablePred Linked :=
  fun m => inferInstanceAs
    (Decidable (∀ entry ∈ m.rotation.find? (·.is m.map.name), m.map.guid = entry.guid))

variable {m after : Model}

theorem Linked.of_same (h : m.Linked) (hmap : after.map = m.map)
    (hrotation : after.rotation = m.rotation) : after.Linked := by
  rw [Linked, hmap, hrotation]
  exact h

theorem linked_mapNamed {name : String} (hmap : after.map = m.mapNamed name)
    (hrotation : after.rotation = m.rotation) : after.Linked := by
  rw [Linked, hmap, hrotation, mapNamed]
  cases hfound : m.rotation.find? (·.is name) with
  | none =>
      intro entry hentry
      rw [Option.getD_none, hfound] at hentry
      cases hentry
  | some found =>
      have hname : found.is name := by simpa using List.find?_some hfound
      intro entry hentry
      rw [Option.getD_some, is_congr hname, hfound] at hentry
      cases hentry
      rfl

def mapAfter (m : Model) : Entry → Map
  | .matchStart name => if name = "" ∨ m.map.is name then m.map else { name }
  | .mapLoaded name | .mapStart name => m.mapNamed name
  | _ => m.map

theorem map_apply (now : Instant) (m : Model) (e : Entry) :
    (m.apply now e).1.map = m.mapAfter e := by
  cases e with
  | matchStart | matchEnd | mapChanging | mapLoaded | mapStart => rfl
  | _ => exact (m.playsOn_apply now id).map

section Answers

variable (now : Instant) {t : Table}

theorem told_preserves {α : Type} {P : α → Prop} {f : α → String → α}
    (hf : ∀ a v, P a → P (f a v)) (cell : Option String) {a : α} (h : P a) :
    P (told cell f a) := by
  cases cell with
  | none => exact h
  | some v => exact hf a v h

theorem linked_applyRoster (h : m.Linked) : (m.applyRoster now t).1.Linked := by
  have hroster := m.playsOn_applyRoster now t
  exact h.of_same hroster.map hroster.rotation

theorem linked_applyRotation (m : Model) : (m.applyRotation t).Linked := by
  unfold applyRotation
  dsimp only
  split
  · rename_i hnone
    intro entry hentry
    rw [hnone] at hentry
    cases hentry
  · rename_i found hfound
    intro entry hentry
    rw [hfound] at hentry
    cases hentry
    rfl

theorem linked_applyInfo (h : m.Linked) : (m.applyInfo now t).Linked := by
  unfold applyInfo
  split
  · exact h
  · refine told_preserves (P := Linked) (fun m v hm => ?_) _
      (told_preserves (P := Linked) (fun m v hm => ?_) _ ?_)
    · exact hm.of_same rfl rfl
    · split
      · exact hm
      · exact linked_mapNamed (m := m) rfl rfl
    · exact h.of_same rfl rfl

theorem linked_applyTable (h : m.Linked) : (m.applyTable now t).1.Linked := by
  unfold applyTable
  split
  · exact linked_applyRoster now h
  · exact h
  · exact linked_applyInfo now h
  · exact linked_applyRotation m
  · exact h

end Answers

end Model

/-- A match starts on another map, which the rotation has a number for. The map then goes without
it, although every other way to a map looks the number up. -/
def Step.Unlinks (m : Model) : Step → Prop
  | .line _ (.matchStart name) =>
      name ≠ "" ∧ ¬ m.map.is name ∧ ∃ entry ∈ m.rotation.find? (·.is name), entry.guid ≠ .none
  | _ => False

namespace Model

variable {m : Model}

theorem linked_matchStart_iff (h : m.Linked) (now : Instant) (name : String) :
    (m.apply now (.matchStart name)).1.Linked ↔
      ¬ Step.Unlinks m (.line now (.matchStart name)) := by
  have hmap := m.map_apply now (.matchStart name)
  have hrotation := (m.touches_apply now (.matchStart name)).rotation
  rw [mapAfter] at hmap
  split at hmap
  · rename_i hsame
    refine iff_of_true (h.of_same hmap hrotation) fun hunlinks => ?_
    exact hsame.elim hunlinks.1 hunlinks.2.1
  · rename_i hother
    obtain ⟨hname, hmoves⟩ := not_or.1 hother
    rw [Linked, hmap, hrotation]
    constructor
    · rintro hlinked ⟨-, -, entry, hentry, hguid⟩
      exact hguid (hlinked entry hentry).symm
    · intro hkept entry hentry
      by_contra hguid
      exact hkept ⟨hname, hmoves, entry, hentry, Ne.symm hguid⟩

theorem Linked.run_iff (h : m.Linked) (step : Step) :
    (step.run m).Linked ↔ ¬ step.Unlinks m := by
  cases step with
  | line now e =>
      have hmap := m.map_apply now e
      have hrotation := (m.touches_apply now e).rotation
      cases e with
      | matchStart name => exact linked_matchStart_iff h now name
      | mapLoaded name | mapStart name =>
          exact iff_of_true (linked_mapNamed hmap hrotation) fun hno => hno
      | _ => exact iff_of_true (h.of_same hmap hrotation) fun hno => hno
  | table now t => exact iff_of_true (linked_applyTable now h) fun hno => hno
  | roster now t => exact iff_of_true (linked_applyRoster now h) fun hno => hno
  | wipe => exact iff_of_true h fun hno => hno
  | setTravelling travelling => exact iff_of_true h fun hno => hno

end Model

/-- From a new model on, the current map has the number that the rotation gives it all the time,
exactly if no match starts on another map that the rotation has a number for. -/
theorem the_map_is_numbered_iff_no_match_starts_elsewhere (steps : List Step) :
    (∀ before, before <+: steps → (Step.runAll {} before).Linked) ↔
      ∀ before step, before ++ [step] <+: steps → ¬ step.Unlinks (Step.runAll {} before) := by
  have hnew : Model.Linked {} := by decide
  exact holds_throughout_iff Model.Linked (fun m (step : Step) => step.Unlinks m) hnew
    fun _ step _ h => h.run_iff step

/-- The rotation is known when a match starts on its only map. -/
theorem a_match_can_start_without_the_number :
    ¬ (Step.runAll {} [
        .table ⟨0⟩ {
          command := "rotation", header := ["Name", "GUID"]
          rows := [["CNC-Field", "00000000000000010000000000000002"]] },
        .line ⟨0⟩ (.matchStart "CNC-Field")]).Linked := by
  decide +kernel

end RemoteConsole.Match
