namespace RemoteConsole

def saturate32 (n : Nat) : UInt32 :=
  .ofNat (min n (UInt32.size - 1))

def saturate64 (n : Nat) : UInt64 :=
  .ofNat (min n (UInt64.size - 1))

theorem toNat_saturate32 (n : Nat) : (saturate32 n).toNat = min n (UInt32.size - 1) := by
  simp only [saturate32, UInt32.toNat_ofNat', UInt32.size]
  omega

theorem toNat_saturate64 (n : Nat) : (saturate64 n).toNat = min n (UInt64.size - 1) := by
  simp only [saturate64, UInt64.toNat_ofNat', UInt64.size]
  omega

end RemoteConsole
