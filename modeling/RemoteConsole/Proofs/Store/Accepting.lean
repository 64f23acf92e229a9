import Mathlib.Data.List.Infix
import RemoteConsole.Store.Writer

namespace RemoteConsole.Store

def signatureOf (call : String × Value) : FieldKind × String :=
  (call.2.kind, call.1)

namespace Writer

/-- The calls that are accepted, of some that are made one after the other. -/
def accepted (w : Writer) : List (String × Value) → List (String × Value)
  | [] => []
  | call :: calls =>
    match w.write call.1 call.2 with
    | (.ok (), w) => call :: w.accepted calls
    | (.error _, w) => w.accepted calls

/-- The next field of the schema is the one that the call writes. -/
def Expects (w : Writer) (call : String × Value) : Prop :=
  w.schema.fields[w.visited]?.map Field.signature = some (signatureOf call)

def behind (w : Writer) (calls : List (String × Value)) : Writer :=
  { w with
    bytes := w.bytes ++ calls.flatMap (·.2.bytes)
    visited := w.visited + calls.length }

variable {w : Writer} {call : String × Value} {calls : List (String × Value)}

theorem write_of_expects (h : w.Expects call) :
    w.write call.1 call.2 = (.ok (), w.behind [call]) := by
  obtain ⟨f, hf, hcall⟩ := Option.map_eq_some_iff.1 h
  obtain ⟨hkind, hname⟩ := Prod.mk.inj hcall
  simp [write, advance, hf, hkind, hname, behind]

theorem write_of_not_expects (h : ¬ w.Expects call) :
    ∃ m, w.write call.1 call.2 = (.error (.schema m), w) := by
  rw [write, advance]
  cases hf : w.schema.fields[w.visited]? with
  | none => exact ⟨_, rfl⟩
  | some f =>
      have hother : f.name ≠ call.1 ∨ f.kind ≠ call.2.kind := by
        by_contra hsame
        obtain ⟨hname, hkind⟩ := not_or.1 hsame
        refine h (Option.map_eq_some_iff.2 ⟨f, hf, ?_⟩)
        exact Prod.ext (not_not.1 hkind) (not_not.1 hname)
      simp only [if_pos hother]
      exact ⟨_, rfl⟩

theorem attempt_cons (w : Writer) (call : String × Value) (calls : List (String × Value)) :
    w.attempt (call :: calls) = (w.write call.1 call.2).2.attempt calls :=
  rfl

theorem behind_nil (w : Writer) : w.behind [] = w := by
  simp [behind]

theorem behind_cons (w : Writer) (call : String × Value) (calls : List (String × Value)) :
    (w.behind [call]).behind calls = w.behind (call :: calls) := by
  simp [behind, Nat.add_assoc, Nat.add_comm 1]

theorem attempt_eq_behind (w : Writer) (calls : List (String × Value)) :
    w.attempt calls = w.behind (w.accepted calls) := by
  induction calls generalizing w with
  | nil => exact w.behind_nil.symm
  | cons call calls ih =>
      rw [attempt_cons, accepted]
      by_cases h : w.Expects call
      · rw [write_of_expects h, ih, behind_cons]
      · obtain ⟨m, hwrite⟩ := write_of_not_expects h
        rw [hwrite, ih]

/-- What is accepted begins with the next field and goes on field by field. -/
theorem accepted_prefix (w : Writer) (calls : List (String × Value)) :
    (w.accepted calls).map signatureOf <+:
      (w.schema.fields.drop w.visited).map Field.signature := by
  induction calls generalizing w with
  | nil => exact List.nil_prefix
  | cons call calls ih =>
      rw [accepted]
      by_cases h : w.Expects call
      · obtain ⟨f, hf, hcall⟩ := Option.map_eq_some_iff.1 h
        obtain ⟨hlt, rfl⟩ := List.getElem?_eq_some_iff.1 hf
        rw [write_of_expects h, List.map_cons, List.drop_eq_getElem_cons hlt, List.map_cons, hcall]
        exact (List.prefix_cons_inj _).2 (ih (w.behind [call]))
      · obtain ⟨m, hwrite⟩ := write_of_not_expects h
        rw [hwrite]
        exact ih w

theorem finish_isOk (w : Writer) :
    (∃ bytes, w.finish = .ok bytes) ↔ w.visited = w.schema.fields.length := by
  rw [finish]
  split
  · rename_i h
    exact ⟨nofun, fun h' => absurd h' h⟩
  · rename_i h
    exact ⟨fun _ => not_not.1 h, fun _ => ⟨_, rfl⟩⟩

end Writer

open Writer in
/-- Whatever calls are made, the accepted ones are the first fields of the schema in order, and what
has been written is their encodings. The record is complete once these are all fields. A further
call is accepted if it is the next field, and otherwise leaves the writer as it was. -/
theorem writer_takes_exactly_the_declared_fields (s : Schema) (before : Bytes)
    (calls : List (String × Value)) :
    let w : Writer := { schema := s, bytes := before }
    (∃ k ≤ s.fields.length,
      (w.accepted calls).map signatureOf = (s.fields.take k).map Field.signature ∧
      w.attempt calls =
        { schema := s, bytes := before ++ (w.accepted calls).flatMap (·.2.bytes), visited := k } ∧
      ((∃ bytes, (w.attempt calls).finish = .ok bytes) ↔ k = s.fields.length)) ∧
    ∀ call : String × Value,
      (w.attempt calls).Expects call ∧
          (w.attempt calls).write call.1 call.2 = (.ok (), (w.attempt calls).behind [call]) ∨
        ¬ (w.attempt calls).Expects call ∧
          ∃ m, (w.attempt calls).write call.1 call.2 = (.error (.schema m), w.attempt calls) := by
  intro w
  have hprefix : (w.accepted calls).map signatureOf <+: s.fields.map Field.signature :=
    w.accepted_prefix calls
  have hattempt : w.attempt calls = w.behind (w.accepted calls) := w.attempt_eq_behind calls
  refine ⟨⟨(w.accepted calls).length, ?_, ?_, ?_, ?_⟩, fun call => ?_⟩
  · simpa using hprefix.length_le
  · rw [List.map_take]
    simpa using List.prefix_iff_eq_take.1 hprefix
  · rw [hattempt, behind, Nat.zero_add]
  · rw [finish_isOk, hattempt, behind, Nat.zero_add]
  · by_cases h : (w.attempt calls).Expects call
    · exact .inl ⟨h, write_of_expects h⟩
    · exact .inr ⟨h, write_of_not_expects h⟩

-- A field too early, a wrong kind and a surplus call leave nothing behind.
example :
    let s : Schema := { name := "pair", current := 0, oldest := 0, fields := [
      { name := "first", kind := .byte }, { name := "second", kind := .word16 }] }
    (Writer.attempt { schema := s } [("second", .word16 1), ("first", .word16 2), ("first", .byte 3),
      ("second", .word16 4), ("second", .word16 5)]).finish = .ok [3, 4, 0] := by
  decide

end RemoteConsole.Store
