import RemoteConsole.GameLog.Entry
import RemoteConsole.Wire.Line

namespace RemoteConsole.GameLog

structure Arguments where
  fields : List String
  delimiter : Char

namespace Arguments

variable (args : Arguments)

def get? (index : Nat) : Option String :=
  args.fields[index]?

def find? (keyword : String) : Option Nat :=
  args.fields.findIdx? (· == keyword)

def after? (keyword : String) : Option String := do
  args.get? ((← args.find? keyword) + 1)

def afterOrEmpty (keyword : String) : String :=
  (args.after? keyword).getD ""

def player? (index : Nat) : Option PlayerTag := do
  PlayerTag.parse? (← args.get? index)

def playerAfter? (keyword : String) : Option PlayerTag := do
  PlayerTag.parse? (← args.after? keyword)

/-- All fields from `index` on, with the delimiters that stood between them. -/
def rest (index : Nat) : String :=
  Text.join (String.singleton args.delimiter) (args.fields.drop index)

/-- Free text behind a keyword, which may hold delimiters itself. -/
def restAfter? (keyword : String) : Option String := do
  return args.rest ((← args.find? keyword) + 1)

def assigned? (key : String) : Option String :=
  args.fields.findSome? (GameLog.assigned? key)

def playerEntry? (topic : String) : Option Entry :=
  match topic with
  | "Enter;" => do
    return .playerEnter (← args.player? 0) (args.afterOrEmpty "from") (args.afterOrEmpty "hwid")
      (((args.after? "steamid").map accountOf).getD 0)
  | "Exit;" => do return .playerExit (← args.player? 0)
  | "Kick;" => do return .playerKick (← args.player? 0) (args.afterOrEmpty "for")
  | "TeamJoin;" => do
    return .teamJoin (← args.player? 0) (.ofWire (← args.after? "joined"))
      ((args.after? "left").map Team.ofWire)
  | "NameChange;" => do return .nameChange (← args.player? 0) (← args.after? "to:")
  | "ChangeID;" => do
    let newId ← Text.int32? (Text.trim (← args.after? "to"))
    let oldId ← Text.int32? (Text.trim (← args.after? "from"))
    return .idChange ⟨oldId⟩ ⟨newId⟩
  | _ => none

/-- A death is a suicide, a death without a killer, or one by somebody, in this order of trust. Who
is no player, such as a turret, is known by name only. -/
def death? : Option Entry := do
  let victim ← args.playerAfter? "player"
  match args.after? "suicide by", args.after? "died by" with
  | some damage, _ => return .suicide victim damage
  | none, some damage => return .death victim none damage
  | none, none =>
    let killer ← args.after? "by"
    let damage := args.afterOrEmpty "with"
    match PlayerTag.parse? killer with
    | some killer => return .kill killer victim damage
    | none => return .death victim (some killer) damage

def destroyed? : Option Entry := do
  let killerName := args.afterOrEmpty "by"
  return .destroyed (.ofWire (← args.get? 0)) (← args.get? 1) (PlayerTag.parse? killerName) killerName
    (args.afterOrEmpty "with")

def takenOver? (entry : PlayerTag → String → Team → Entry) : Option Entry := do
  let (oldTeam, building) ← teamObject? (← args.get? 0)
  return entry (← args.playerAfter? "by") building oldTeam

def score (team : Team) : Int64 :=
  ((args.assigned? team.wire).map (Text.lenient Text.int64?)).getD 0

def matchEnd? : Option Entry := do
  let ended (winner : Option Team) (reason : Option String) : Entry :=
    .matchEnd ⟨winner, winner.isNone, reason.getD "", args.score .sideA, args.score .sideB⟩
  match ← args.get? 0 with
  | "winner" => return ended (some (.ofWire (← args.get? 1))) (args.get? 2)
  | "tie" => return ended none (args.get? 1)
  | _ => none

def gameEntry? (topic : String) : Option Entry :=
  match topic with
  | "Death;" => args.death?
  | "Destroyed;" => args.destroyed?
  | "Captured;" => args.takenOver? .captured
  | "Neutralized;" => args.takenOver? .neutralized
  | "Deployed;" => do return .deployed (← args.playerAfter? "by") (← args.get? 0)
  | "Disarmed;" => do
    return .disarmed (← args.playerAfter? "by") (← args.get? 0) (args.playerAfter? "owned by")
  | "MatchStart;" => some (.matchStart ((args.get? 0).getD ""))
  | "MatchEnd;" => args.matchEnd?
  | _ => none

def chatEntry? (topic : String) : Option Entry :=
  match topic with
  | "Say;" => do return .chat (← args.player? 0) (← args.restAfter? "said:")
  | "TeamSay;" => do return .teamChat (← args.player? 0) (← args.restAfter? "said:")
  | "HostSay;" => do return .hostChat (← args.restAfter? "said:")
  | _ => none

def voters (value : String) : Team :=
  if Text.sameLetters value "Global" then .none else .ofWire value

def votes (key : String) : UInt32 :=
  ((args.assigned? key).map (Text.lenient Text.uint32?)).getD 0

def voteEntry? (topic : String) : Option Entry :=
  match topic with
  | "Called;" => do
    let params := args.fields.drop (((args.find? "by").getD 0) + 2)
    return .voteCalled (voters (← args.get? 0)) (← args.get? 1) (args.playerAfter? "by") params
  | "Results;" => do
    return .voteResults (voters (← args.get? 0)) (← args.get? 1)
      (Text.sameLetters (← args.get? 2) "pass") (args.votes "Yes") (args.votes "No")
  | "Cancelled;" => do return .voteCancelled (voters (← args.get? 0)) (← args.get? 1)
  | _ => none

def mapEntry? (topic : String) : Option Entry :=
  match topic with
  | "Changing;" => do
    match ← args.get? 0 with
    | "seamless" => return .mapChanging (← args.get? 1) true
    | "nonseamless" => return .mapChanging (← args.get? 1) false
    | map => return .mapChanging map false
  | "Loaded;" => do return .mapLoaded (← args.get? 0)
  | "Start;" => do return .mapStart (← args.get? 0)
  | _ => none

def consoleEntry? (topic : String) : Option Entry :=
  match topic with
  | "Command;" => do return .consoleCommand (← args.get? 0) (← args.restAfter? "executed:")
  | "Subscribed;" => do return .consoleSubscribed (← args.get? 0)
  | "Unsubscribed;" => do return .consoleUnsubscribed (← args.get? 0)
  | _ => none

def adminEntry? (topic : String) : Option Entry := do
  let player ← args.player? 0
  let level := args.afterOrEmpty "as"
  match topic with
  | "Login;" => return .adminLogin player level
  | "Logout;" => return .adminLogout player level
  | "Granted;" => return .adminGranted player level
  | _ => none

def entry? (header topic : String) : Option Entry :=
  match header with
  | "PLAYER" => args.playerEntry? topic
  | "GAME" => args.gameEntry? topic
  | "CHAT" => args.chatEntry? topic
  | "VOTE" => args.voteEntry? topic
  | "MAP" => args.mapEntry? topic
  | "RCON" => args.consoleEntry? topic
  | "ADMIN" => args.adminEntry? topic
  | _ => none

end Arguments

/-- The first field names a group, the second a topic in it. A line of a known topic that lacks an
argument it needs counts as unknown. -/
def classify (line : Wire.Line) : Entry :=
  let args : Arguments := ⟨line.fields.drop 2, line.delimiterChar⟩
  (args.entry? (line.field 0) (line.field 1)).getD (.unknown (line.field 0) (line.field 1))

end RemoteConsole.GameLog
