import RemoteConsole.Proofs.GameLog.Lines

namespace RemoteConsole.GameLog

open PlayerTag (parse?)

def deathKeywords : List String :=
  ["player", "suicide by", "died by", "by", "with"]

theorem comma_not_mem_keyword : ∀ keyword ∈ deathKeywords, ',' ∉ keyword.toList := by
  decide

namespace Arguments

variable {token cause : String} {victim : PlayerTag}

section Victim

variable (hvictim : parse? token = some victim) (behind : List String)

include hvictim

theorem playerAfter?_player :
    (argumentsOf ("player" :: token :: behind)).playerAfter? "player" = some victim := by
  rw [argumentsOf, playerAfter?, after?_keyword]
  exact hvictim

theorem after?_behind_victim {keyword : String} (hkeyword : keyword ∈ deathKeywords.tail) :
    (argumentsOf ("player" :: token :: behind)).after? keyword =
      (argumentsOf behind).after? keyword := by
  have hplayer : "player" ≠ keyword := by
    rintro rfl
    revert hkeyword
    decide
  -- The tag holds a comma, as no keyword does.
  have htoken : token ≠ keyword := PlayerTag.ne_of_parse? hvictim
    (comma_not_mem_keyword keyword (List.mem_of_mem_tail hkeyword))
  rw [argumentsOf, after?_other hplayer, after?_other htoken, argumentsOf]

end Victim

theorem death?_suicide (hvictim : parse? token = some victim) :
    (argumentsOf ["player", token, "suicide by", cause]).death? = some (.suicide victim cause) := by
  have hplayer := playerAfter?_player hvictim ["suicide by", cause]
  have hsuicide : (argumentsOf ["player", token, "suicide by", cause]).after? "suicide by" =
      some cause := by
    rw [after?_behind_victim hvictim _ (by decide), argumentsOf, after?_keyword, List.head?_cons]
  simp [death?, hplayer, hsuicide]

theorem death?_accident (hvictim : parse? token = some victim) :
    (argumentsOf ["player", token, "died by", cause]).death? =
      some (.death victim none cause) := by
  have hplayer := playerAfter?_player hvictim ["died by", cause]
  have hsuicide : (argumentsOf ["player", token, "died by", cause]).after? "suicide by" = none := by
    rw [after?_behind_victim hvictim _ (by decide), argumentsOf, after?_other (by decide),
      after?_last]
  have hdied : (argumentsOf ["player", token, "died by", cause]).after? "died by" =
      some cause := by
    rw [after?_behind_victim hvictim _ (by decide), argumentsOf, after?_keyword, List.head?_cons]
  simp [death?, hplayer, hsuicide, hdied]

theorem after?_behind_killer (hvictim : parse? token = some victim) {killer : String}
    (hkiller : killer ∉ deathKeywords) {keyword : String} (hkeyword : keyword ∈ deathKeywords.tail)
    (hby : "by" ≠ keyword) (behind : List String) :
    (argumentsOf ("player" :: token :: "by" :: killer :: behind)).after? keyword =
      (argumentsOf behind).after? keyword := by
  have hother : killer ≠ keyword :=
    (ne_of_mem_of_not_mem (List.mem_of_mem_tail hkeyword) hkiller).symm
  rw [after?_behind_victim hvictim _ hkeyword, argumentsOf, after?_other hby, after?_other hother,
    argumentsOf]

theorem death?_by (hvictim : parse? token = some victim) {killer : String}
    (hkiller : killer ∉ deathKeywords) :
    (argumentsOf ["player", token, "by", killer, "with", cause]).death? =
      some (match parse? killer with
        | some killer => .kill killer victim cause
        | none => .death victim (some killer) cause) := by
  have hplayer := playerAfter?_player hvictim ["by", killer, "with", cause]
  have hsuicide : (argumentsOf ["player", token, "by", killer, "with", cause]).after?
      "suicide by" = none := by
    rw [after?_behind_killer hvictim hkiller (by decide) (by decide), argumentsOf,
      -- The cause may be the keyword itself, but nothing stands behind it.
      after?_other (by decide), after?_last]
  have hdied : (argumentsOf ["player", token, "by", killer, "with", cause]).after?
      "died by" = none := by
    rw [after?_behind_killer hvictim hkiller (by decide) (by decide), argumentsOf,
      after?_other (by decide), after?_last]
  have hby : (argumentsOf ["player", token, "by", killer, "with", cause]).after? "by" =
      some killer := by
    rw [after?_behind_victim hvictim _ (by decide), argumentsOf, after?_keyword, List.head?_cons]
  have hwith : (argumentsOf ["player", token, "by", killer, "with", cause]).after? "with" =
      some cause := by
    rw [after?_behind_killer hvictim hkiller (by decide) (by decide), argumentsOf, after?_keyword,
      List.head?_cons]
  simp only [death?, hplayer, hsuicide, hdied, hby, afterOrEmpty, hwith]
  cases hparse : parse? killer <;> simp [hparse]

end Arguments

/-- Whatever the cause is called, a keyword included, each form of the line is taken for what it
is: a kill by a player, a death by something else that has a name, an accident or a suicide. -/
theorem deaths_are_told_apart {token cause : String} {victim : PlayerTag}
    (htoken : Whole token) (hvictim : parse? token = some victim) (hcause : Whole cause) :
    (∀ (killerToken : String) (killer : PlayerTag), Whole killerToken →
      parse? killerToken = some killer →
      read? (line ["GAME", "Death;", "player", token, "by", killerToken, "with", cause]) =
        some (.kill killer victim cause)) ∧
    (∀ name : String, Whole name → parse? name = none → name ∉ deathKeywords →
      read? (line ["GAME", "Death;", "player", token, "by", name, "with", cause]) =
        some (.death victim (some name) cause)) ∧
    read? (line ["GAME", "Death;", "player", token, "died by", cause]) =
      some (.death victim none cause) ∧
    read? (line ["GAME", "Death;", "player", token, "suicide by", cause]) =
      some (.suicide victim cause) := by
  have hentry (fields : List String) : entryOf "GAME" "Death;" (argumentsOf fields) =
      (argumentsOf fields).death?.getD (.unknown "GAME" "Death;") := rfl
  refine ⟨fun killerToken killer hwhole hkiller => ?_, fun name hwhole hname hother => ?_, ?_, ?_⟩
  · have hother : killerToken ∉ deathKeywords := fun h =>
      PlayerTag.ne_of_parse? hkiller (comma_not_mem_keyword _ h) rfl
    rw [read?_line _ _ _ (by simp +decide [htoken, hwhole, hcause]), hentry,
      Arguments.death?_by hvictim hother, hkiller]
    rfl
  · rw [read?_line _ _ _ (by simp +decide [htoken, hwhole, hcause]), hentry,
      Arguments.death?_by hvictim hother, hname]
    rfl
  · rw [read?_line _ _ _ (by simp +decide [htoken, hcause]), hentry,
      Arguments.death?_accident hvictim, Option.getD_some]
  · rw [read?_line _ _ _ (by simp +decide [htoken, hcause]), hentry,
      Arguments.death?_suicide hvictim, Option.getD_some]

theorem deaths_are_told_apart_by_their_killers :
    Whole "Nod,4,Bob" ∧ parse? "Nod,4,Bob" = some ⟨.sideB, ⟨4⟩, "Bob", false⟩ ∧
      Whole "suicide by" ∧
      (Whole "GDI,3,Alice" ∧ parse? "GDI,3,Alice" = some ⟨.sideA, ⟨3⟩, "Alice", false⟩ ∧
        read? (line ["GAME", "Death;", "player", "Nod,4,Bob", "by", "GDI,3,Alice", "with",
          "suicide by"]) = some (.kill ⟨.sideA, ⟨3⟩, "Alice", false⟩
            ⟨.sideB, ⟨4⟩, "Bob", false⟩ "suicide by")) ∧
      (Whole "Rx_Defence_GuardTower" ∧ parse? "Rx_Defence_GuardTower" = none ∧
        "Rx_Defence_GuardTower" ∉ deathKeywords ∧
        read? (line ["GAME", "Death;", "player", "Nod,4,Bob", "by", "Rx_Defence_GuardTower", "with",
          "suicide by"]) = some (.death ⟨.sideB, ⟨4⟩, "Bob", false⟩
            (some "Rx_Defence_GuardTower") "suicide by")) := by
  have htoken : Whole "Nod,4,Bob" := by decide
  have hvictim : parse? "Nod,4,Bob" = some ⟨.sideB, ⟨4⟩, "Bob", false⟩ := by decide
  have hcause : Whole "suicide by" := by decide
  obtain ⟨hkill, hnamed, -⟩ := deaths_are_told_apart htoken hvictim hcause
  have hkillerToken : Whole "GDI,3,Alice" := by decide
  have hkiller : parse? "GDI,3,Alice" = some ⟨.sideA, ⟨3⟩, "Alice", false⟩ := by decide
  have hname : Whole "Rx_Defence_GuardTower" := by decide
  have hnobody : parse? "Rx_Defence_GuardTower" = none := by decide
  have hother : "Rx_Defence_GuardTower" ∉ deathKeywords := by decide
  exact ⟨htoken, hvictim, hcause,
    ⟨hkillerToken, hkiller, hkill _ _ hkillerToken hkiller⟩,
    ⟨hname, hnobody, hother, hnamed _ hname hnobody hother⟩⟩

end RemoteConsole.GameLog
