import Mathlib.Data.Nat.Bitwise
import RemoteConsole.Proofs.Ban.Entry

namespace RemoteConsole

namespace Address

theorem testBit_mask (length : UInt8) (k : Nat) :
    (mask length).toNat.testBit k = decide (k < 32 ∧ 32 ≤ k + length.toNat) := by
  have hall : (0xFFFFFFFF : UInt32).toNat = 2 ^ 32 - 1 := rfl
  unfold mask
  split
  · rename_i hzero
    subst hzero
    simp
  · rename_i hzero
    have hpos : length.toNat ≠ 0 := fun h => hzero (UInt8.toNat_inj.1 h)
    split
    · rename_i hlong
      have hlength : 32 ≤ length.toNat := UInt8.le_iff_toNat_le.1 hlong
      rw [hall, Nat.testBit_two_pow_sub_one, decide_eq_decide]
      omega
    · rename_i hshort
      have hlength : length.toNat < 32 :=
        Nat.not_le.1 fun h => hshort (UInt8.le_iff_toNat_le.2 h)
      have hle : length.toUInt32 ≤ 32 := by
        rw [UInt32.le_iff_toNat_le, UInt8.toNat_toUInt32]
        exact hlength.le
      have hshift : (32 - length.toUInt32).toNat % 32 = 32 - length.toNat := by
        rw [UInt32.toNat_sub_of_le _ _ hle, UInt8.toNat_toUInt32]
        exact Nat.mod_eq_of_lt (by simp only [UInt32.reduceToNat]; omega)
      rw [UInt32.toNat_shiftLeft, hshift, hall, Nat.testBit_mod_two_pow, Nat.testBit_shiftLeft,
        Nat.testBit_two_pow_sub_one, ← Bool.decide_and, ← Bool.decide_and, decide_eq_decide]
      omega

theorem sameNetwork_iff (a b : Address) (length : UInt8) :
    a.sameNetwork b length ↔ ∀ k < 32, 32 ≤ k + length.toNat →
      a.bits.toNat.testBit k = b.bits.toNat.testBit k := by
  rw [sameNetwork, beq_iff_eq, ← UInt32.toNat_inj, UInt32.toNat_and, UInt32.toNat_and]
  constructor
  · intro h k hk hlength
    have hbit := congrArg (·.testBit k) h
    simpa [testBit_mask, hk, hlength] using hbit
  · intro h
    refine Nat.eq_of_testBit_eq fun k => ?_
    rw [Nat.testBit_and, Nat.testBit_and, testBit_mask]
    by_cases hk : k < 32 ∧ 32 ≤ k + length.toNat
    · rw [h k hk.1 hk.2]
    · simp [hk]

end Address

namespace Ban

namespace Entry

variable (b : Entry)

/-- The ban names the account of the player, a network with their address, or their hardware id. -/
def Identifies (p : Match.Player) : Prop :=
  (b.account ≠ 0 ∧ b.account = p.account) ∨
    (b.address ≠ .unknown ∧ p.address ≠ .unknown ∧ ∀ k < 32, 32 ≤ k + b.networkBits.toNat →
      b.address.bits.toNat.testBit k = p.address.bits.toNat.testBit k) ∨
    (b.hardwareId ≠ "" ∧ b.hardwareId = p.hardwareId)

/-- The ban is for good, or its end is still to come. The last second there is ends all others. -/
def Lasts (now : UInt64) : Prop :=
  b.duration = 0 ∨ now.toNat < min (b.issued.toNat + b.duration.toNat) (2 ^ 64 - 1)

/-- The ban is in force for the player. -/
def Holds (now : UInt64) (p : Match.Player) : Prop :=
  b.isActive ∧ b.Identifies p ∧ b.Lasts now

/-- The ban is marked as in force for the player, but it has run out. -/
def Lapsed (now : UInt64) (p : Match.Player) : Prop :=
  b.isActive ∧ b.Identifies p ∧ ¬ b.Lasts now

variable {b} {p : Match.Player} {now : UInt64}

theorem concerns_iff : b.concerns p ↔ b.Identifies p := by
  have hknown (a : Address) : a.isKnown ↔ a ≠ .unknown := by
    rw [Address.isKnown, bne_iff_ne, ne_eq, ne_eq, Address.unknown, Address.mk.injEq]
  simp only [concerns, Identifies, Bool.or_eq_true, Bool.and_eq_true, bne_iff_ne, beq_iff_eq,
    hknown, Address.sameNetwork_iff, or_assoc, and_assoc]

theorem isExpired_iff : b.isExpired now ↔ ¬ b.Lasts now := by
  unfold isExpired expiry? Lasts
  by_cases hduration : b.duration = 0
  · simp [isPermanent, hduration]
  · rw [isPermanent, beq_false_of_ne hduration]
    simp only [Bool.false_eq_true, if_false, decide_eq_true_eq, hduration, false_or]
    rw [UInt64.le_iff_toNat_le, toNat_saturate64, Nat.not_lt]
    rfl

theorem holds_iff : b.Holds now p ↔ (b.isActive && b.concerns p && !b.isExpired now) = true := by
  rw [Bool.and_eq_true, Bool.and_eq_true, Bool.not_eq_true', ← Bool.not_eq_true, isExpired_iff,
    not_not, concerns_iff, and_assoc, Holds]

theorem lapsed_iff : b.Lapsed now p ↔ (b.isActive && b.concerns p && b.isExpired now) = true := by
  rw [Bool.and_eq_true, Bool.and_eq_true, isExpired_iff, concerns_iff, and_assoc, Lapsed]

end Entry

end Ban

end RemoteConsole
