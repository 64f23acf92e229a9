import RemoteConsole.Proofs.GameLog.Lines

namespace RemoteConsole.GameLog

open PlayerTag (parse?)

theorem restAfter?_said (message : String) :
    (argumentsOf ("said:" :: Text.pieces (Wire.charOfByte Wire.delimiter) message)).restAfter?
      "said:" = some message := by
  rw [argumentsOf, Arguments.restAfter?_keyword, Text.join_pieces]

theorem spoken {token : String} {tag : PlayerTag} (htag : parse? token = some tag)
    (message : String) :
    let args := argumentsOf
      (token :: "said:" :: Text.pieces (Wire.charOfByte Wire.delimiter) message)
    args.player? 0 = some tag ∧ args.restAfter? "said:" = some message := by
  refine ⟨htag, ?_⟩
  -- The tag of who speaks is no keyword, so the first one is that in front of the message.
  rw [argumentsOf, Arguments.restAfter?_other (PlayerTag.ne_of_parse? htag (by decide))]
  exact restAfter?_said message

theorem read?_chatLine (topic : String) (fields : List String) (message : String)
    (hwhole : ∀ field ∈ topic :: fields, Whole field) :
    read? (line ("CHAT" :: topic :: fields ++ ["said:", message])) =
      some (entryOf "CHAT" topic (argumentsOf
        (fields ++ "said:" :: Text.pieces (Wire.charOfByte Wire.delimiter) message))) := by
  have hall : ∀ field ∈ "CHAT" :: topic :: (fields ++ ["said:"]), Whole field := by
    have hgroup : Whole "CHAT" := by decide
    have hsaid : Whole "said:" := by decide
    simpa [hgroup, hsaid, or_imp, forall_and] using hwhole
  have hread := read?_line_concat "CHAT" topic (fields ++ ["said:"]) message hall
  simpa using hread

/-- Whatever is said, be it nothing, a keyword or the delimiter itself, is told as it was said. -/
theorem chat_arrives_unaltered (message : String) :
    (∀ (token : String) (tag : PlayerTag), Whole token → parse? token = some tag →
      read? (line ["CHAT", "Say;", token, "said:", message]) = some (.chat tag message) ∧
      read? (line ["CHAT", "TeamSay;", token, "said:", message]) = some (.teamChat tag message)) ∧
    read? (line ["CHAT", "HostSay;", "said:", message]) = some (.hostChat message) := by
  constructor
  · intro token tag htoken htag
    obtain ⟨hplayer, hsaid⟩ := spoken htag message
    have hwhole (topic : String) (htopic : Whole topic) :
        ∀ field ∈ [topic, token], Whole field := by
      simp [htopic, htoken]
    constructor
    · refine (read?_chatLine "Say;" [token] message (hwhole _ (by decide))).trans ?_
      simp [entryOf, Arguments.entry?, Arguments.chatEntry?, hplayer, hsaid]
    · refine (read?_chatLine "TeamSay;" [token] message (hwhole _ (by decide))).trans ?_
      simp [entryOf, Arguments.entry?, Arguments.chatEntry?, hplayer, hsaid]
  · refine (read?_chatLine "HostSay;" [] message (by decide)).trans ?_
    simp [entryOf, Arguments.entry?, Arguments.chatEntry?, restAfter?_said]

theorem chat_arrives_unaltered_with_a_keyword_inside :
    Whole "GDI,3,Alice" ∧ parse? "GDI,3,Alice" = some ⟨.sideA, ⟨3⟩, "Alice", false⟩ ∧
      read? (line ["CHAT", "Say;", "GDI,3,Alice", "said:", "!rank\x02said:\x02"]) =
        some (.chat ⟨.sideA, ⟨3⟩, "Alice", false⟩ "!rank\x02said:\x02") := by
  have htoken : Whole "GDI,3,Alice" := by decide
  have htag : parse? "GDI,3,Alice" = some ⟨.sideA, ⟨3⟩, "Alice", false⟩ := by decide
  exact ⟨htoken, htag, ((chat_arrives_unaltered "!rank\x02said:\x02").1 _ _ htoken htag).1⟩

end RemoteConsole.GameLog
