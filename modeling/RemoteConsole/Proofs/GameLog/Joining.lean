import RemoteConsole.Proofs.GameLog.Lines

namespace RemoteConsole.GameLog

open PlayerTag (parse?)

def identityFields (hwid : Option String) (account : Option AccountId) : List String :=
  (hwid.map fun hwid => ["hwid", hwid]).getD [] ++
    (account.map fun account => ["steamid", accountText account]).getD []

def joinLine (token ip : String) (hwid : Option String) (account : Option AccountId) :
    Wire.Bytes :=
  line ("PLAYER" :: "Enter;" :: token :: "from" :: ip :: identityFields hwid account)

theorem whole_accountText (account : AccountId) : Whole (accountText account) := by
  rw [Whole, Wire.mem_encode (by decide), toList_accountText, List.mem_cons, List.mem_cons]
  rintro (h | h | h)
  · exact absurd h (by decide)
  · exact absurd h (by decide)
  · exact absurd (Text.toNat_bounds_of_mem_hexDigits true h).1 (by decide)

section Lookups

variable {token ip : String} {tag : PlayerTag} {hwid : Option String} {account : Option AccountId}
  {behind : List String}

theorem afterOrEmpty_from (htag : parse? token = some tag) :
    (argumentsOf (token :: "from" :: ip :: behind)).afterOrEmpty "from" = ip := by
  rw [argumentsOf, Arguments.afterOrEmpty,
    Arguments.after?_other (PlayerTag.ne_of_parse? htag (by decide)), Arguments.after?_keyword]
  rfl

theorem after?_behind_address (htag : parse? token = some tag) {keyword : String}
    (hkeyword : ',' ∉ keyword.toList) (hfrom : "from" ≠ keyword) :
    (argumentsOf (token :: "from" :: ip :: behind)).after? keyword =
      if ip = keyword then behind.head? else (argumentsOf behind).after? keyword := by
  rw [argumentsOf, Arguments.after?_other (PlayerTag.ne_of_parse? htag hkeyword),
    Arguments.after?_other hfrom]
  split
  · rename_i hip
    rw [hip, Arguments.after?_keyword]
  · rename_i hip
    rw [Arguments.after?_other hip, argumentsOf]

theorem after?_hwid : (argumentsOf (identityFields hwid account)).after? "hwid" = hwid := by
  cases hwid <;> cases account <;> simp [argumentsOf, identityFields]

theorem after?_steamid :
    (argumentsOf (identityFields hwid account)).after? "steamid" =
      account.map fun account =>
        if hwid = some "steamid" then "steamid" else accountText account := by
  cases hwid with
  | none => cases account <;> simp [argumentsOf, identityFields]
  | some hwid =>
      by_cases h : hwid = "steamid"
      · cases account <;> simp [argumentsOf, identityFields, h]
      · cases account <;> simp [argumentsOf, identityFields, h]

theorem accountOf_keyword : accountOf "hwid" = 0 ∧ accountOf "steamid" = 0 := by
  decide

theorem head?_identityFields : (identityFields hwid account).head? =
    (hwid.map fun _ => "hwid").or (account.map fun _ => "steamid") := by
  cases hwid <;> cases account <;> rfl

theorem heard_hwid (htag : parse? token = some tag) :
    (argumentsOf (token :: "from" :: ip :: identityFields hwid account)).afterOrEmpty "hwid" =
      ((if ip = "hwid" then (hwid.map fun _ => "hwid").or (account.map fun _ => "steamid")
        else hwid).getD "") := by
  rw [Arguments.afterOrEmpty, after?_behind_address htag (by decide) (by decide),
    head?_identityFields, after?_hwid]

theorem heard_account (htag : parse? token = some tag) :
    (((argumentsOf (token :: "from" :: ip :: identityFields hwid account)).after?
      "steamid").map accountOf).getD 0 =
      if ip = "steamid" ∨ hwid = some "steamid" then 0 else account.getD 0 := by
  rw [after?_behind_address htag (by decide) (by decide), head?_identityFields, after?_steamid]
  -- Where a keyword is read in its place, no account is.
  obtain ⟨hhwid, hsteamid⟩ := accountOf_keyword
  by_cases hip : ip = "steamid"
  · cases hwid <;> cases account <;> simp [hip, hhwid, hsteamid]
  · by_cases h : hwid = some "steamid"
    · cases account <;> simp [hip, h, hsteamid]
    · cases account <;> simp [hip, h, accountOf_accountText]

end Lookups

theorem read?_joinLine {token ip : String} {tag : PlayerTag} {hwid : Option String}
    {account : Option AccountId} (htoken : Whole token) (htag : parse? token = some tag)
    (hip : Whole ip) (hhwid : ∀ text ∈ hwid, Whole text) :
    read? (joinLine token ip hwid account) = some (.playerEnter tag ip
      ((if ip = "hwid" then (hwid.map fun _ => "hwid").or (account.map fun _ => "steamid")
        else hwid).getD "")
      (if ip = "steamid" ∨ hwid = some "steamid" then 0 else account.getD 0)) := by
  have hwhole : ∀ field ∈ "PLAYER" :: "Enter;" :: token :: "from" :: ip ::
      identityFields hwid account, Whole field := by
    cases hwid <;> cases account <;>
      simp +decide [identityFields, htoken, hip, whole_accountText, hhwid]
  have hplayer (fields : List String) : (argumentsOf (token :: fields)).player? 0 = some tag := htag
  rw [joinLine, read?_line _ _ _ hwhole]
  simp only [entryOf, Arguments.entry?, Arguments.playerEntry?, hplayer, afterOrEmpty_from htag,
    heard_hwid htag, heard_account htag]
  rfl

/-- The player and the address of one who joins are always read. Hardware and account are as well,
unless an earlier value is taken for their keyword and what stands behind that differs. -/
theorem joining_tells_the_identity_iff_no_value_is_taken_for_a_keyword {token ip : String}
    {tag : PlayerTag} {hwid : Option String} {account : Option AccountId} (htoken : Whole token)
    (htag : parse? token = some tag) (hip : Whole ip) (hhwid : ∀ text ∈ hwid, Whole text) :
    (∃ heardHwid heardAccount, read? (joinLine token ip hwid account) =
      some (.playerEnter tag ip heardHwid heardAccount)) ∧
    (read? (joinLine token ip hwid account) =
        some (.playerEnter tag ip (hwid.getD "") (account.getD 0)) ↔
      (ip = "hwid" → hwid = some "hwid" ∨ hwid = none ∧ account = none) ∧
      (ip = "steamid" ∨ hwid = some "steamid" → account.getD 0 = 0)) := by
  rw [read?_joinLine htoken htag hip hhwid]
  refine ⟨⟨_, _, rfl⟩, ?_⟩
  simp only [Option.some.injEq, Entry.playerEnter.injEq, true_and]
  refine and_congr ?_ ?_
  · by_cases h : ip = "hwid"
    · cases hwid with
      | none => cases account <;> simp [h]
      | some hwid => simpa [h] using eq_comm
    · simp [h]
  · by_cases h : ip = "steamid" ∨ hwid = some "steamid"
    · rw [if_pos h, forall_prop_of_true h, eq_comm]
    · simp [h]

theorem joining_tells_the_identity_without_an_account :
    Whole "Nod,b-7,Bot, the Destroyer" ∧
      parse? "Nod,b-7,Bot, the Destroyer" = some ⟨.sideB, ⟨-7⟩, "Bot, the Destroyer", true⟩ ∧
      Whole "steamid" ∧ (∀ text ∈ some "m0011aabb", Whole text) ∧
      read? (joinLine "Nod,b-7,Bot, the Destroyer" "steamid" (some "m0011aabb") none) =
        some (.playerEnter ⟨.sideB, ⟨-7⟩, "Bot, the Destroyer", true⟩ "steamid" "m0011aabb" 0) := by
  have htoken : Whole "Nod,b-7,Bot, the Destroyer" := by decide
  have htag : parse? "Nod,b-7,Bot, the Destroyer" =
      some ⟨.sideB, ⟨-7⟩, "Bot, the Destroyer", true⟩ := by decide
  have hip : Whole "steamid" := by decide
  have hhwid : ∀ text ∈ some "m0011aabb", Whole text := by simp +decide
  exact ⟨htoken, htag, hip, hhwid, (joining_tells_the_identity_iff_no_value_is_taken_for_a_keyword
    htoken htag hip hhwid).2.2 (by decide)⟩

/-- What a player reports as hardware is taken for the keyword in front of the account. -/
theorem hardware_can_hide_the_account :
    ¬ ∀ (token ip hwid : String) (tag : PlayerTag) (account : AccountId), Whole token →
      parse? token = some tag → Whole ip → Whole hwid →
      read? (joinLine token ip (some hwid) (some account)) =
        some (.playerEnter tag ip hwid account) := by
  intro hall
  have htoken : Whole "GDI,3,Alice" := by decide
  have htag : parse? "GDI,3,Alice" = some ⟨.sideA, ⟨3⟩, "Alice", false⟩ := by decide
  have hip : Whole "10.0.0.7" := by decide
  have hhwid : Whole "steamid" := by decide
  have hclaimed := hall _ _ _ _ 16 htoken htag hip hhwid
  rw [read?_joinLine htoken htag hip (by simpa using hhwid)] at hclaimed
  exact absurd hclaimed (by decide)

end RemoteConsole.GameLog
