import Mathlib.Data.List.Basic
import RemoteConsole.Ladder.Entry

namespace RemoteConsole.Ladder

inductive Feat where
  | score
  | kills
  | deaths
  | headshotKills
  | vehicleKills
  | buildingKills
  | defenceKills
  | captures
  | gameTime
  | beaconPlacements
  | beaconDisarms
  | minePlacements
  | mineDisarms
  deriving DecidableEq

inductive Counter where
  | feat (f : Feat)
  | games
  | wins
  | ties
  deriving DecidableEq

def Counter.most : Counter → Nat
  | .feat .score => UInt64.size - 1
  | _ => UInt32.size - 1

namespace Tally

def count (t : Tally) : Counter → Nat
  | .feat .score => t.score.toNat
  | .feat .kills => t.kills.toNat
  | .feat .deaths => t.deaths.toNat
  | .feat .headshotKills => t.headshotKills.toNat
  | .feat .vehicleKills => t.vehicleKills.toNat
  | .feat .buildingKills => t.buildingKills.toNat
  | .feat .defenceKills => t.defenceKills.toNat
  | .feat .captures => t.captures.toNat
  | .feat .gameTime => t.gameTime.toNat
  | .games => t.games.toNat
  | .wins => t.wins.toNat
  | .ties => t.ties.toNat
  | .feat .beaconPlacements => t.beaconPlacements.toNat
  | .feat .beaconDisarms => t.beaconDisarms.toNat
  | .feat .minePlacements => t.minePlacements.toNat
  | .feat .mineDisarms => t.mineDisarms.toNat

theorem count_add (a b : Tally) (c : Counter) :
    (a.add b).count c = min c.most (a.count c + b.count c) := by
  rw [Nat.min_comm]
  cases c with
  | feat f => cases f <;> simp only [add, combine, count, Counter.most, toNat_saturate64,
      toNat_saturate32]
  | games | wins | ties => exact toNat_saturate32 _

theorem count_le (t : Tally) (c : Counter) : t.count c ≤ c.most := by
  have hwide (n : UInt64) : n.toNat ≤ UInt64.size - 1 := Nat.le_sub_one_of_lt n.toNat_lt
  have hnarrow (n : UInt32) : n.toNat ≤ UInt32.size - 1 := Nat.le_sub_one_of_lt n.toNat_lt
  cases c with
  | feat f =>
      cases f with
      | score => exact hwide _
      | _ => exact hnarrow _
  | games | wins | ties => exact hnarrow _

theorem ext_count {a b : Tally} (h : ∀ c, a.count c = b.count c) : a = b := by
  cases a
  cases b
  simp only [mk.injEq]
  exact ⟨UInt64.toNat_inj.1 (h (.feat .score)), UInt32.toNat_inj.1 (h (.feat .kills)),
    UInt32.toNat_inj.1 (h (.feat .deaths)), UInt32.toNat_inj.1 (h (.feat .headshotKills)),
    UInt32.toNat_inj.1 (h (.feat .vehicleKills)), UInt32.toNat_inj.1 (h (.feat .buildingKills)),
    UInt32.toNat_inj.1 (h (.feat .defenceKills)), UInt32.toNat_inj.1 (h (.feat .captures)),
    UInt32.toNat_inj.1 (h (.feat .gameTime)), UInt32.toNat_inj.1 (h .games),
    UInt32.toNat_inj.1 (h .wins), UInt32.toNat_inj.1 (h .ties),
    UInt32.toNat_inj.1 (h (.feat .beaconPlacements)),
    UInt32.toNat_inj.1 (h (.feat .beaconDisarms)),
    UInt32.toNat_inj.1 (h (.feat .minePlacements)), UInt32.toNat_inj.1 (h (.feat .mineDisarms))⟩

end Tally

namespace Peaks

def best (k : Peaks) : Feat → Nat
  | .score => k.score.toNat
  | .kills => k.kills.toNat
  | .deaths => k.deaths.toNat
  | .headshotKills => k.headshotKills.toNat
  | .vehicleKills => k.vehicleKills.toNat
  | .buildingKills => k.buildingKills.toNat
  | .defenceKills => k.defenceKills.toNat
  | .captures => k.captures.toNat
  | .gameTime => k.gameTime.toNat
  | .beaconPlacements => k.beaconPlacements.toNat
  | .beaconDisarms => k.beaconDisarms.toNat
  | .minePlacements => k.minePlacements.toNat
  | .mineDisarms => k.mineDisarms.toNat

theorem best_max (a b : Peaks) (f : Feat) : (a.max b).best f = Max.max (a.best f) (b.best f) := by
  cases f with
  | score => exact UInt64.toNat_max _ _
  | _ => exact UInt32.toNat_max _ _

theorem best_ofTally (t : Tally) (f : Feat) : (ofTally t).best f = t.count (.feat f) := by
  cases f <;> rfl

theorem ext_best {a b : Peaks} (h : ∀ f, a.best f = b.best f) : a = b := by
  cases a
  cases b
  simp only [mk.injEq]
  exact ⟨UInt64.toNat_inj.1 (h .score), UInt32.toNat_inj.1 (h .kills),
    UInt32.toNat_inj.1 (h .deaths), UInt32.toNat_inj.1 (h .headshotKills),
    UInt32.toNat_inj.1 (h .vehicleKills), UInt32.toNat_inj.1 (h .buildingKills),
    UInt32.toNat_inj.1 (h .defenceKills), UInt32.toNat_inj.1 (h .captures),
    UInt32.toNat_inj.1 (h .gameTime), UInt32.toNat_inj.1 (h .beaconPlacements),
    UInt32.toNat_inj.1 (h .beaconDisarms), UInt32.toNat_inj.1 (h .minePlacements),
    UInt32.toNat_inj.1 (h .mineDisarms)⟩

end Peaks

inductive Part where
  | whole
  | sideA
  | sideB
  deriving DecidableEq

def Entry.tally (e : Entry) : Part → Tally
  | .whole => e.totals
  | .sideA => e.sideA
  | .sideB => e.sideB

theorem max?_concat {ns : List Nat} {greatest : Nat} (h : ns.max? = some greatest) (n : Nat) :
    (ns ++ [n]).max? = some (max greatest n) := by
  cases ns with
  | nil => cases h
  | cons m ns =>
      rw [List.max?_cons'] at h
      rw [List.cons_append, List.max?_cons', List.foldl_append, Option.some.inj h]
      rfl

theorem max?_perm {ms ns : List Nat} (h : ms.Perm ns) : ms.max? = ns.max? := by
  apply Option.ext
  intro n
  simp only [List.max?_eq_some_iff, h.mem_iff]

end RemoteConsole.Ladder
