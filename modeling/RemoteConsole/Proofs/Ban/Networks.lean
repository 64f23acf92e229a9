import RemoteConsole.Proofs.Ban.Book
import RemoteConsole.Proofs.Ban.Terms

namespace RemoteConsole

namespace Address

def bit (a : Address) (i : Nat) : Bool :=
  a.bits.toBitVec.getMsbD i

def Agree (count : Nat) (a b : Address) : Prop :=
  ∀ i < count, a.bit i = b.bit i

variable {a b c : Address} {p q : UInt8}

theorem bit_eq_testBit (a : Address) {k : Nat} (hk : k < 32) :
    a.bit (31 - k) = a.bits.toNat.testBit k := by
  have hback : 31 - (31 - k) = k := by omega
  have hlt : 31 - k < 32 := by omega
  rw [bit, BitVec.getMsbD_eq_getLsbD, decide_eq_true hlt, Bool.true_and, hback]
  rfl

theorem sameNetwork_iff_agree : a.sameNetwork b p ↔ Agree (min p.toNat 32) a b := by
  rw [sameNetwork_iff]
  constructor
  · intro h i hi
    have hback : 31 - (31 - i) = i := by omega
    have hbit := h (31 - i) (by omega) (by omega)
    rwa [← bit_eq_testBit a (by omega), ← bit_eq_testBit b (by omega), hback] at hbit
  · intro h k hk hlength
    rw [← bit_eq_testBit a hk, ← bit_eq_testBit b hk]
    exact h (31 - k) (by omega)

theorem agree_equivalence (count : Nat) : Equivalence (Agree count) where
  refl _ _ _ := rfl
  symm h i hi := (h i hi).symm
  trans h h' i hi := (h i hi).trans (h' i hi)

theorem Agree.mono {m n : Nat} (h : Agree n a b) (hmn : m ≤ n) : Agree m a b :=
  fun i hi => h i (Nat.lt_of_lt_of_le hi hmn)

theorem sameNetwork_equivalence (p : UInt8) :
    Equivalence fun a b : Address => a.sameNetwork b p = true := by
  simp only [sameNetwork_iff_agree]
  exact agree_equivalence _

theorem sameNetwork_mono (hpq : p ≤ q) (h : a.sameNetwork b q) : a.sameNetwork b p := by
  have hle : p.toNat ≤ q.toNat := UInt8.le_iff_toNat_le.1 hpq
  rw [sameNetwork_iff_agree] at h ⊢
  exact h.mono (by omega)

end Address

namespace Ban

namespace Book

variable (book : Book)

theorem indicesOf_ascending (holds : Entry → Bool) :
    (book.indicesOf holds).Pairwise (· < ·) := by
  have hall : (book.entries.zipIdx.map Prod.snd).Pairwise (· < ·) := by
    rw [List.zipIdx_map_snd]
    exact List.pairwise_lt_range'
  exact hall.sublist (List.filter_sublist.map _)

end Book

def OnlyAddress (p : Match.Player) (a : Address) : Prop :=
  p.address = a ∧ p.account = 0 ∧ p.hardwareId = ""

theorem Entry.concerns_of_onlyAddress {p : Match.Player} {a : Address} (hp : OnlyAddress p a)
    (ha : a ≠ .unknown) (b : Entry) :
    b.concerns p = (b.address.isKnown && b.address.sameNetwork a b.networkBits) := by
  obtain ⟨rfl, haccount, hhardware⟩ := hp
  have hknown : p.address.isKnown = true := by
    rw [Address.isKnown, bne_iff_ne]
    exact fun h => ha (congrArg Address.mk h)
  have haccounts : (b.account != 0 && b.account == 0) = false := Bool.not_and_self _
  have hhardwares : (b.hardwareId != "" && b.hardwareId == "") = false := Bool.not_and_self _
  rw [concerns, haccount, hhardware, haccounts, hhardwares, hknown, Bool.and_true, Bool.false_or,
    Bool.or_false]

theorem Book.findByAddress_eq (book : Book) {p : Match.Player} {a : Address}
    (hp : OnlyAddress p a) (ha : a ≠ .unknown) :
    book.findByAddress a = book.indicesOf (·.concerns p) := by
  rw [findByAddress, funext (Entry.concerns_of_onlyAddress hp ha)]

/-- A ban on a network is one on all addresses with the same first bits, so networks of one length
part the addresses and a longer prefix only narrows them. Looking for the bans on an address finds
each that would meet a player with nothing but this address, in order, and no other. -/
theorem network_bans_mean_their_prefix :
    (∀ (a b : Address) (p : UInt8), a.sameNetwork b p ↔ Address.Agree (min p.toNat 32) a b) ∧
    (∀ p : UInt8, Equivalence fun a b : Address => a.sameNetwork b p = true) ∧
    (∀ (a b : Address) (p q : UInt8), p ≤ q → a.sameNetwork b q → a.sameNetwork b p) ∧
    ∀ (book : Book) (p : Match.Player) (a : Address), OnlyAddress p a → a ≠ .unknown →
      (book.findByAddress a).Pairwise (· < ·) ∧
        ∀ i, i ∈ book.findByAddress a ↔ ∃ b, book.entries[i]? = some b ∧ b.concerns p := by
  refine ⟨fun a b p => Address.sameNetwork_iff_agree, Address.sameNetwork_equivalence,
    fun a b p q => Address.sameNetwork_mono, fun book p a hp ha => ?_⟩
  rw [book.findByAddress_eq hp ha]
  exact ⟨book.indicesOf_ascending _, fun i => Book.mem_indicesOf⟩

theorem network_bans_mean_their_prefix_of_four :
    let a : Address := ⟨0x0A010203⟩
    let b : Address := ⟨0x0A0102C8⟩
    let p : Match.Player := { id := ⟨7⟩, name := "Ann", address := a, joinedAt := ⟨0⟩ }
    let book : Book := ⟨⟨1, []⟩, [{ issued := 1, address := b }, { issued := 1, networkBits := 0 },
      { issued := 1, address := b, networkBits := 24 },
      { issued := 1, address := a, networkBits := 40 }]⟩
    ((8 : UInt8) ≤ 24 ∧ a.sameNetwork b 24 ∧ OnlyAddress p a ∧ a ≠ .unknown) ∧
      a.sameNetwork b 8 ∧ (book.findByAddress a).Pairwise (· < ·) ∧ book.findByAddress a = [2, 3] ∧
        ∀ i, i ∈ book.findByAddress a ↔ ∃ b, book.entries[i]? = some b ∧ b.concerns p := by
  intro a b p book
  have hpq : (8 : UInt8) ≤ 24 := by decide
  have hsame : a.sameNetwork b 24 := by decide
  have hp : OnlyAddress p a := ⟨rfl, rfl, rfl⟩
  have ha : a ≠ .unknown := by decide
  obtain ⟨-, -, hmono, hfind⟩ := network_bans_mean_their_prefix
  obtain ⟨hascending, hmem⟩ := hfind book p a hp ha
  exact ⟨⟨hpq, hsame, hp, ha⟩, hmono a b 8 24 hpq hsame, hascending, by decide, hmem⟩

end Ban

end RemoteConsole
