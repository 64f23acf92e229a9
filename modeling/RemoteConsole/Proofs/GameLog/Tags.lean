import RemoteConsole.GameLog.Tag
import RemoteConsole.Proofs.Text.Number
import RemoteConsole.Proofs.Text.Pieces

namespace RemoteConsole.GameLog

theorem playerId?_eq_some_iff {cs : List Char} {id : PlayerId} :
    playerId? cs = some id ↔ Text.Numeral cs id.value.toInt := by
  obtain ⟨value⟩ := id
  rw [playerId?]
  by_cases hplus : cs.head? = some '+'
  · rw [if_pos hplus]
    obtain ⟨cs, rfl⟩ := List.head?_eq_some_iff.1 hplus
    have hno : ¬ Text.Numeral ('+' :: cs) value.toInt := fun h =>
      h.not_mem (by decide) rfl List.mem_cons_self
    simp [hno]
  · rw [if_neg hplus]
    have hread :=
      Text.int32?_eq_some_iff (s := String.ofList cs) (v := value) (by simpa using hplus)
    rw [String.toList_ofList] at hread
    simp [hread]

namespace PlayerTag

def text (team : String) (isBot : Bool) (number name : String) : String :=
  team ++ "," ++ (if isBot then "b" else "") ++ number ++ "," ++ name

def unmark : List Char → Bool × List Char
  | 'b' :: rest => (true, rest)
  | rest => (false, rest)

theorem parse?_eq_some_iff_cut {s : String} {tag : PlayerTag} :
    parse? s = some tag ↔ ∃ team rest digits name,
      Text.cutAt? (· == ',') s.toList = some (team, rest) ∧
      Text.cutAt? (· == ',') (unmark rest).2 = some (digits, name) ∧
      playerId? digits = some tag.id ∧ name ≠ [] ∧
      tag = ⟨.ofWire (.ofList team), tag.id, .ofList name, (unmark rest).1⟩ := by
  have hunfold : parse? s = (Text.cutAt? (· == ',') s.toList).bind fun team =>
      (Text.cutAt? (· == ',') (unmark team.2).2).bind fun number =>
      (playerId? number.1).bind fun id => if number.2.isEmpty then none
      else some ⟨.ofWire (.ofList team.1), id, .ofList number.2, (unmark team.2).1⟩ := rfl
  simp only [hunfold, Option.bind_eq_some_iff, Prod.exists]
  grind

theorem append_unmark (rest : List Char) :
    (if (unmark rest).1 then ['b'] else []) ++ (unmark rest).2 = rest := by
  unfold unmark
  split <;> rfl

theorem unmark_append {isBot : Bool} {body : List Char} (h : body.head? ≠ some 'b') :
    unmark ((if isBot then ['b'] else []) ++ body) = (isBot, body) := by
  cases isBot with
  | true => rfl
  | false =>
      rw [if_neg Bool.false_ne_true, List.nil_append, unmark]
      rintro rest rfl
      exact h rfl

theorem toList_text (team : String) (isBot : Bool) (number name : String) :
    (text team isBot number name).toList = team.toList ++ ',' ::
      ((if isBot then ['b'] else []) ++ (number.toList ++ ',' :: name.toList)) := by
  cases isBot <;> simp [text]

theorem parse?_text {team number name : String} {isBot : Bool} {id : PlayerId}
    (hteam : ',' ∉ team.toList) (hnumber : Text.Numeral number.toList id.value.toInt)
    (hname : name ≠ "") :
    parse? (text team isBot number name) = some ⟨.ofWire team, id, name, isBot⟩ := by
  have hcomma : ',' ∉ number.toList := hnumber.not_mem (by decide) rfl
  have hbody : (number.toList ++ ',' :: name.toList).head? ≠ some 'b' := by
    obtain ⟨c, cs, hcs⟩ := List.exists_cons_of_ne_nil hnumber.ne_nil
    have hmark : 'b' ∉ c :: cs := hcs ▸ hnumber.not_mem (by decide) rfl
    rw [hcs]
    rintro ⟨⟩
    exact hmark List.mem_cons_self
  rw [parse?_eq_some_iff_cut]
  refine ⟨team.toList, _, number.toList, name.toList,
    Text.cutAt?_separator_eq_some_iff.2 ⟨hteam, toList_text ..⟩, ?_,
    playerId?_eq_some_iff.2 hnumber, by simpa using hname, ?_⟩
  · rw [unmark_append hbody]
    exact Text.cutAt?_separator_eq_some_iff.2 ⟨hcomma, rfl⟩
  · rw [unmark_append hbody]
    simp

theorem parse?_eq_some_iff {s : String} {tag : PlayerTag} :
    parse? s = some tag ↔ ∃ team number, s = text team tag.isBot number tag.name ∧
      ',' ∉ team.toList ∧ Text.Numeral number.toList tag.id.value.toInt ∧ tag.name ≠ "" ∧
      tag.team = .ofWire team := by
  constructor
  · intro h
    obtain ⟨team, rest, digits, name, hteam, hdigits, hid, hname, htag⟩ :=
      parse?_eq_some_iff_cut.1 h
    obtain ⟨hcomma, hs⟩ := Text.cutAt?_separator_eq_some_iff.1 hteam
    obtain ⟨-, hrest⟩ := Text.cutAt?_separator_eq_some_iff.1 hdigits
    refine ⟨.ofList team, .ofList digits, ?_, by simpa using hcomma, ?_, ?_, ?_⟩
    · rw [htag, ← String.toList_inj, toList_text]
      simp only [String.toList_ofList]
      rw [← hrest, append_unmark, hs]
    · simpa using playerId?_eq_some_iff.1 hid
    · rw [htag]
      simpa using hname
    · rw [htag]
  · rintro ⟨team, number, rfl, hteam, hnumber, hname, heq⟩
    rw [parse?_text hteam hnumber hname, ← heq]

theorem comma_mem_of_parse? {s : String} {tag : PlayerTag} (h : parse? s = some tag) :
    ',' ∈ s.toList := by
  obtain ⟨team, number, rfl, -⟩ := parse?_eq_some_iff.1 h
  simp [toList_text]

/-- A text is the tag of a player exactly if it is a team without a comma, an id with a `b` before
it for a bot, and a name, where the id is a decimal number of 32 bits and the name, which may hold
commas, is not empty. So what is written is read back, whatever the team is called. -/
theorem tags_are_exactly_team_id_and_name :
    (∀ (s : String) (tag : PlayerTag), parse? s = some tag ↔
      ∃ team number : String, s = text team tag.isBot number tag.name ∧
        ',' ∉ team.toList ∧ Text.Numeral number.toList tag.id.value.toInt ∧ tag.name ≠ "" ∧
        tag.team = .ofWire team) ∧
    ∀ (team : String) (isBot : Bool) (id : PlayerId) (name : String), ',' ∉ team.toList →
      name ≠ "" → parse? (text team isBot (toString id.value.toInt) name) =
        some ⟨.ofWire team, id, name, isBot⟩ := by
  refine ⟨fun s tag => parse?_eq_some_iff, fun team isBot id name hteam hname => ?_⟩
  exact parse?_text hteam (Text.numeral_toString _) hname

theorem tags_are_exactly_team_id_and_name_of_a_bot :
    ',' ∉ "Nod".toList ∧ "Bot, the Destroyer" ≠ "" ∧
      parse? "Nod,b-7,Bot, the Destroyer" = some ⟨.sideB, ⟨-7⟩, "Bot, the Destroyer", true⟩ := by
  have hteam : ',' ∉ "Nod".toList := by decide
  have hname : "Bot, the Destroyer" ≠ "" := by decide
  exact ⟨hteam, hname, tags_are_exactly_team_id_and_name.2 "Nod" true ⟨-7⟩ _ hteam hname⟩

end PlayerTag

theorem toList_accountText (account : AccountId) :
    (accountText account).toList = '0' :: 'x' :: Text.hexDigits true 16 account.toNat := by
  simp [accountText, Text.hex]

theorem accountOf_accountText (account : AccountId) :
    accountOf (accountText account) = account := by
  have hblank : ∀ c ∈ (accountText account).toList, Text.isBlank c = false := by
    rw [toList_accountText]
    simpa using ⟨rfl, rfl, fun c => Text.isBlank_of_mem_hexDigits true⟩
  have hdigits : Text.after? "0x" (accountText account) =
      some (Text.hex true 16 account.toNat) := by
    simp [Text.after?, accountText]
  rw [accountOf, Text.trim_of_no_blank hblank, hdigits, Option.some_or]
  simp only [Text.hex64?_hex true account.toNat_lt, Option.getD_some, UInt64.ofNat_toNat]

end RemoteConsole.GameLog
