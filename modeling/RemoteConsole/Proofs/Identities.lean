import RemoteConsole.Match.Map
import RemoteConsole.Proofs.GameLog.Tags
import RemoteConsole.Proofs.Text.Hexadecimal

namespace RemoteConsole

open Text (IsHexText trim)

namespace Match.Guid

variable {s : String}

theorem isDigits_iff : isDigits s = true ↔ IsHexText 32 s := by
  rw [isDigits, Bool.and_eq_true, beq_iff_eq, List.all_eq_true, Text.isHexText_iff_encode]

theorem splitAt?_append {first last : String} (hfirst : IsHexText 16 first) :
    Text.Utf8.splitAt? 16 (first ++ last) = some (first, last) := by
  have hcut := Text.Utf8.splitAt?_append first last
  rwa [(Text.isHexText_iff_encode.1 hfirst).1] at hcut

theorem parse?_of_digits (h : IsHexText 32 (trim s)) :
    ∃ g, parse? s = some g ∧ g.toString = (trim s).toUpper := by
  obtain ⟨first, last, htext, hfirst, hlast⟩ := Text.IsHexText.split (m := 16) (n := 16) h
  obtain ⟨high, hhigh, hupper⟩ := hfirst.hex64?
  obtain ⟨low, hlow, hlower⟩ := hlast.hex64?
  refine ⟨⟨high, low⟩, ?_, ?_⟩
  · rw [parse?, if_pos (isDigits_iff.2 h), htext, splitAt?_append hfirst]
    simp [hhigh, hlow]
  · rw [toString, hupper, hlower, htext, ← String.toList_inj]
    simp [String.toUpper]

theorem isHexText_toString (g : Guid) : IsHexText 32 g.toString :=
  (Text.isHexText_hex g.high).append (Text.isHexText_hex g.low)

theorem trim_toString (g : Guid) : trim g.toString = g.toString := by
  refine Text.trim_of_no_blank fun c hc => ?_
  rw [toString, String.toList_append, List.mem_append] at hc
  rcases hc with hc | hc
  all_goals
    rw [Text.hex, String.toList_ofList] at hc
    exact Text.isBlank_of_mem_hexDigits true hc

theorem parse?_toString (g : Guid) : parse? g.toString = some g := by
  have hdigits := isDigits_iff.2 (isHexText_toString g)
  rw [parse?, trim_toString, if_pos hdigits, toString,
    splitAt?_append (Text.isHexText_hex g.high)]
  simp [Text.hex64?_hex true g.high.toNat_lt, Text.hex64?_hex true g.low.toNat_lt]

theorem parse?_eq_some_iff {g : Guid} :
    parse? s = some g ↔ IsHexText 32 (trim s) ∧ g.toString = (trim s).toUpper := by
  by_cases h : IsHexText 32 (trim s)
  · obtain ⟨read, hread, hupper⟩ := parse?_of_digits h
    rw [and_iff_right h, hread, Option.some.injEq]
    constructor
    · rintro rfl
      exact hupper
    · intro hg
      rw [← Option.some.injEq, ← parse?_toString, ← parse?_toString g, hg, hupper]
  · rw [parse?, if_neg (mt isDigits_iff.1 h)]
    exact iff_of_false nofun fun hg => h hg.1

end Match.Guid

namespace GameLog

theorem after?_of_isDecimal {start s : String} {mark : Char} (hmark : mark ∈ start.toList)
    (hother : mark.isDigit = false) (h : Text.IsDecimal s.toList) : Text.after? start s = none := by
  refine Option.eq_none_iff_forall_ne_some.2 fun rest hrest => ?_
  rw [Text.after?_eq_some_iff.1 hrest, String.toList_append] at h
  have hdigit := h.2 mark (List.mem_append_left _ hmark)
  rw [hother] at hdigit
  exact Bool.false_ne_true hdigit

theorem accountOf_toString (account : AccountId) :
    accountOf (toString account.toNat) = account := by
  have hdecimal : Text.IsDecimal (toString account.toNat).toList :=
    Text.isDecimal_repr account.toNat
  have hblank : ∀ c ∈ (toString account.toNat).toList, Text.isBlank c = false := by
    intro c hc
    have hdigit := (Text.isDigit_iff c).1 (hdecimal.2 c hc)
    simp only [Text.isBlank, Bool.or_eq_false_iff, Bool.and_eq_false_iff, decide_eq_false_iff_not,
      beq_eq_false_iff_ne]
    omega
  have hread : Text.natural? 10 (toString account.toNat).toList = some account.toNat :=
    Text.natural?_ten_eq_some_iff.2 ⟨hdecimal, (Text.ofDigitChars_repr account.toNat).symm⟩
  have hvalue := Text.unsigned?_of_natural? hread account.toNat_lt
  rw [String.ofList_toList] at hvalue
  have hsmall : 'x' ∈ "0x".toList := by decide
  have hcapital : 'X' ∈ "0X".toList := by decide
  rw [accountOf, Text.trim_of_no_blank hblank, after?_of_isDecimal hsmall rfl hdecimal,
    after?_of_isDecimal hcapital rfl hdecimal, Option.or_none, Text.uint64?, hvalue]
  simp only [Option.map_some, Option.getD_some, UInt64.ofNat_toNat]

end GameLog

/-- The number of a map is read back from its 32 digits, and read from a text exactly if there are
32 hexadecimal digits between blanks, which in capitals are then what is written of it. The text is
only cut between characters. An account is read back from both its forms. -/
theorem identities_are_read_back :
    (∀ g : Match.Guid, Match.Guid.parse? g.toString = some g) ∧
    (∀ s, (Match.Guid.parse? s).isSome ↔ IsHexText 32 (trim s)) ∧
    (∀ s g, Match.Guid.parse? s = some g ↔
      IsHexText 32 (trim s) ∧ g.toString = (trim s).toUpper) ∧
    (∀ s, Match.Guid.isDigits (trim s) = true → (Text.Utf8.splitAt? 16 (trim s)).isSome) ∧
    ∀ account : AccountId, GameLog.accountOf (GameLog.accountText account) = account ∧
      GameLog.accountOf (toString account.toNat) = account := by
  refine ⟨Match.Guid.parse?_toString, fun s => ?_, fun s g => Match.Guid.parse?_eq_some_iff,
    fun s hs => ?_, fun account => ⟨GameLog.accountOf_accountText account,
      GameLog.accountOf_toString account⟩⟩
  · constructor
    · intro hread
      obtain ⟨g, hg⟩ := Option.isSome_iff_exists.1 hread
      exact (Match.Guid.parse?_eq_some_iff.1 hg).1
    · intro hdigits
      obtain ⟨g, hg, -⟩ := Match.Guid.parse?_of_digits hdigits
      exact Option.isSome_of_eq_some hg
  · obtain ⟨first, last, htext, hfirst, -⟩ :=
      Text.IsHexText.split (m := 16) (n := 16) (Match.Guid.isDigits_iff.1 hs)
    rw [htext, Match.Guid.splitAt?_append hfirst]
    rfl

theorem identities_are_read_back_of_small_letters :
    Match.Guid.isDigits (trim "\t0123456789abcdef000000000000000f ") = true ∧
      (Text.Utf8.splitAt? 16 (trim "\t0123456789abcdef000000000000000f ")).isSome ∧
      Match.Guid.parse? "\t0123456789abcdef000000000000000f " =
        some ⟨0x0123456789ABCDEF, 0xF⟩ := by
  have hdigits : Match.Guid.isDigits (trim "\t0123456789abcdef000000000000000f ") = true := by
    decide
  refine ⟨hdigits, identities_are_read_back.2.2.2.1 _ hdigits,
    (identities_are_read_back.2.2.1 _ _).2 ⟨Match.Guid.isDigits_iff.1 hdigits, ?_⟩⟩
  rw [String.toUpper, ← String.toList_inj, String.toList_map]
  decide

end RemoteConsole
