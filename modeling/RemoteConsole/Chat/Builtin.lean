import RemoteConsole.Chat.Command

namespace RemoteConsole.Chat

def helpReply (r : Reference) (params : String) : String :=
  if params.isEmpty then "Commands: " ++ Text.join " " (r.triggers.map (r.mark ++ ·))
  else
    let word := String.ofList (Text.dropAll r.mark.toList params.toList)
    match r.help? word with
    | some help => r.mark ++ help
    | none => "No such command: " ++ word

def helpCommand : Command where
  triggers := ["help", "commands"]
  help := "help [command] - list commands or show one command's usage"
  run r _ p params := [.tell p.id (helpReply r params)]

def describe (e : Ladder.Entry) : String :=
  let t := e.totals
  "#" ++ toString e.rank ++ " " ++ e.name ++ " - score " ++ toString t.score.toNat ++ ", " ++
    toString t.kills.toNat ++ " kills, " ++ toString t.deaths.toNat ++ " deaths (K/D " ++
    t.killRatio.fixed 2 ++ "), " ++ toString t.games.toNat ++ " games, " ++
    toString t.wins.toNat ++ " wins"

/-- A part that several names have in common has to be one of them in full. -/
def rankReply (s : Ladder.Standings) (account : AccountId) (params : String) : String :=
  if params.isEmpty then
    match s.ofAccount? account with
    | some e => describe e
    | none => "You are not ranked yet."
  else
    match s.allOfPart params with
    | [] => "No ranked player matches \"" ++ params ++ "\"."
    | [e] => describe e
    | several =>
      match s.ofName? params with
      | some e => describe e
      | none =>
        toString several.length ++ " ranked players match \"" ++ params ++ "\"; be more specific."

def rankCommand : Command where
  triggers := ["rank", "ladder"]
  help := "rank [name] - show a ladder position (yours when no name is given)"
  run r _ p params := [.tell p.id (
    match r.ladder with
    | none => "The ladder is disabled."
    | some s => rankReply s p.account params)]

def builtin : Router :=
  [helpCommand, rankCommand].foldl Router.register {}

end RemoteConsole.Chat
