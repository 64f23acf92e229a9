import RemoteConsole.Text.Number

namespace RemoteConsole.Program

structure Arguments where
  config : String := "rconhub.cfg"
  dump : Option Nat := none
  deriving DecidableEq, Inhabited

inductive Request where
  | run (args : Arguments)
  | help
  | misuse (complaint : String)
  deriving DecidableEq, Inhabited

inductive Setting where
  | config
  | dump
  deriving DecidableEq, Inhabited

inductive Word where
  | option (o : Setting) (value : Option String)
  | help
  | stop
  | unknown
  deriving DecidableEq, Inhabited

def Word.read (word : String) : Word :=
  match word.toList with
  | ['-', '-'] => .stop
  | '-' :: '-' :: long =>
    match String.ofList (long.takeWhile (· != '=')), (Text.cutAt? (· == '=') long).map (String.ofList ·.2) with
    | "config", value => .option .config value
    | "dump-ladder", value => .option .dump value
    | "help", none => .help
    | _, _ => .unknown
  | '-' :: 'h' :: _ => .help
  | ['-', 'c'] => .option .config none
  | '-' :: 'c' :: '=' :: value => .option .config (some (.ofList value))
  | '-' :: 'c' :: value => .option .config (some (.ofList value))
  | _ => .unknown

def isDashed (word : String) : Bool :=
  word.toList.head? == some '-' && word != "-"

structure Given where
  config : Option String := none
  dump : Option Nat := none
  deriving DecidableEq, Inhabited

namespace Given

def arguments (g : Given) : Arguments where
  config := g.config.getD "rconhub.cfg"
  dump := g.dump

def set (g : Given) (o : Setting) (value : String) : Except String Given :=
  match o with
  | .config =>
    if g.config.isSome then .error "the argument '--config <CONFIG>' cannot be used multiple times"
    else if value.isEmpty then .error "a value is required for '--config <CONFIG>'"
    else .ok { g with config := some value }
  | .dump =>
    if g.dump.isSome then .error "the argument '--dump-ladder <N>' cannot be used multiple times"
    else
      match Text.uint64? value with
      | none => .error ("invalid value '" ++ value ++ "' for '--dump-ladder <N>'")
      | some n => .ok { g with dump := some n.toNat }

end Given

def parseFrom (g : Given) : List String → Request
  | [] => .run g.arguments
  | word :: rest =>
    match Word.read word with
    | .help => .help
    | .unknown => .misuse ("unexpected argument '" ++ word ++ "' found")
    | .stop =>
      match rest with
      | [] => .run g.arguments
      | extra :: _ => .misuse ("unexpected argument '" ++ extra ++ "' found")
    | .option o (some value) =>
      match g.set o value with
      | .error complaint => .misuse complaint
      | .ok g => parseFrom g rest
    | .option o none =>
      match rest with
      | [] => .misuse ("a value is required for '" ++ word ++ "'")
      | value :: rest =>
        if isDashed value then .misuse ("a value is required for '" ++ word ++ "'")
        else
          match g.set o value with
          | .error complaint => .misuse complaint
          | .ok g => parseFrom g rest

def parse (words : List String) : Request :=
  parseFrom {} words

def helpText : String :=
  "Keeps RCON sessions to many game servers and publishes their events\n\n" ++
  "Usage: rconhub [OPTIONS]\n\n" ++
  "Options:\n" ++
  "  -c, --config <CONFIG>  Host configuration file [default: rconhub.cfg]\n" ++
  "      --dump-ladder <N>  Print the top N ladder entries as JSON and exit\n" ++
  "  -h, --help             Print help\n"

end RemoteConsole.Program
