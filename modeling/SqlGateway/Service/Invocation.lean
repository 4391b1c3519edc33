/-! The arguments of the program. -/

namespace SqlGateway

/-- What the program is asked to do. -/
inductive Invocation where
  /-- Run the requests on standard input, with the configuration at a path. -/
  | query (config : String)
  /-- Explain the requests on standard input, with the configuration at a path. -/
  | explain (config : String)
  | version
  | help
  /-- The arguments are wrong. -/
  | misuse
  deriving DecidableEq, Repr

namespace Invocation

/-- The path of the configuration if none is given. -/
def defaultConfig : String := "./aerosql.json"

/-- Whether an argument is read as an option rather than as a value. -/
def isOption (argument : String) : Bool :=
  match argument.toList with
  | ['-'] => false
  | '-' :: _ => true
  | _ => false

/-- Whether an argument is a cluster of short options that begins with a letter. -/
def beginsShort (letter : Char) (argument : String) : Bool :=
  match argument.toList with
  | '-' :: c :: _ => c = letter
  | _ => false

/-- Whether an argument asks for help. -/
def asksHelp (argument : String) : Bool := argument == "--help" || beginsShort 'h' argument

/-- The value of an option that is written in the same argument. -/
def attached? (option argument : String) : Option String :=
  let head := (option ++ "=").toList
  if head.isPrefixOf argument.toList then
    some (String.ofList (argument.toList.drop head.length))
  else none

/-- Reads the options of a subcommand: at most one path of a configuration. Two dashes end the
options, and nothing may follow them. -/
def ofOptions (make : String → Invocation) (config : Option String) : List String → Invocation
  | [] => make (config.getD defaultConfig)
  | argument :: rest =>
    if asksHelp argument then .help
    else if argument = "--" then
      if rest.isEmpty then make (config.getD defaultConfig) else .misuse
    else if argument = "--config" then
      match rest with
      | value :: rest =>
        if isOption value || value.isEmpty || config.isSome then .misuse
        else ofOptions make (some value) rest
      | [] => .misuse
    else match attached? "--config" argument with
      | some value =>
        if value.isEmpty || config.isSome then .misuse else ofOptions make (some value) rest
      | none => .misuse

/-- Reads the arguments of the program. -/
def ofArguments : List String → Invocation
  | [] => .misuse
  | argument :: rest =>
    if argument = "--version" || beginsShort 'V' argument then .version
    else if asksHelp argument then .help
    else if argument = "query" then ofOptions .query none rest
    else if argument = "explain" then ofOptions .explain none rest
    else if argument = "help" then
      match rest with
      | [] | ["query"] | ["explain"] | ["help"] => .help
      | _ => .misuse
    else .misuse

end Invocation

end SqlGateway
