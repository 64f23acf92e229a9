import RemoteConsole.Dictionary
import RemoteConsole.Ladder.Standings
import RemoteConsole.Session.Action

namespace RemoteConsole.Chat

open Match (Player)
open Session (Action)

structure Reference where
  mark : String
  triggers : List String
  help? : String → Option String
  ladder : Option Ladder.Standings

structure Command where
  triggers : List String
  help : String
  run : Reference → Session → Player → (params : String) → List Action

def assign (place : Nat) (triggers : List String) (table : List (String × Nat)) :
    List (String × Nat) :=
  triggers.foldl (fun table trigger => insertPair (Text.lowerAscii trigger) place table) table

section Assign

variable {place bound : Nat} {triggers : List String} {table : List (String × Nat)}

theorem assign_sorted (h : table.Pairwise (·.1 < ·.1)) :
    (assign place triggers table).Pairwise (·.1 < ·.1) :=
  List.foldlRecOn triggers _ h fun _ hsorted _ _ => insertPair_sorted hsorted

theorem assign_placed (h : ∀ p ∈ table, p.2 < bound) (hplace : place < bound) :
    ∀ p ∈ assign place triggers table, p.2 < bound := by
  induction triggers generalizing table with
  | nil => exact h
  | cons trigger triggers ih =>
      refine ih fun p hp => ?_
      rcases mem_insertPair hp with rfl | hp
      · exact hplace
      · exact h p hp

end Assign

/-- All commands, in the order in which they came, and the place of the one that a word names. -/
structure Router where
  commands : List Command := []
  byTrigger : List (String × Nat) := []
  sorted : byTrigger.Pairwise (·.1 < ·.1) := by exact .nil
  placed : ∀ p ∈ byTrigger, p.2 < commands.length := by exact fun _ h => absurd h List.not_mem_nil

namespace Router

variable (r : Router)

def register (c : Command) : Router where
  commands := r.commands ++ [c]
  byTrigger := assign r.commands.length c.triggers r.byTrigger
  sorted := assign_sorted r.sorted
  placed := by
    have hlonger : r.commands.length < (r.commands ++ [c]).length := by simp
    exact assign_placed (fun p hp => Nat.lt_trans (r.placed p hp) hlonger) hlonger

/-- The command that a word names, with its place among all. -/
def find? (word : String) : Option (Command × Nat) :=
  (r.byTrigger.lookup (Text.lowerAscii word)).bind fun i => r.commands[i]?.map (·, i)

def triggers : List String :=
  r.byTrigger.map Prod.fst

def help? (word : String) : Option String :=
  (r.find? word).map (·.1.help)

def blankOut (text : String) : String :=
  .ofList (text.toList.map fun c => if c = '\x02' then ' ' else c)

def split (text : String) : String × String :=
  let text := Text.trim (blankOut text)
  match Text.splitAtBlank? text with
  | some (word, params) => (word, Text.trim params)
  | none => (text, "")

/-- The command that a message without its mark asks for, its place, and its parameters. -/
def route? (text : String) : Option (Command × Nat × String) :=
  let (word, params) := split text
  if word.isEmpty then none else (r.find? word).map fun (c, i) => (c, i, params)

end Router

end RemoteConsole.Chat
