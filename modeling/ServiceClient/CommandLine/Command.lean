import ServiceClient.Number.Numeral

/-!
Reading a command line. Options before a command are flags; after it they stand anywhere among the
other arguments, up to a `--`. A line that is no command in this sense has no meaning at all.
-/

namespace ServiceClient

namespace CommandLine

inductive Command
  | help (text : String)
  | describe (base : String) (endpoint : Option String)
  | call (base method : String) (args : List String) (endpoint : Option String)
  | serve (base : String) (endpoint : Option String) (port : Int)

/-- An option: its name with its dashes, and whether a value follows it. -/
structure OptionSpec where
  name : String
  takesValue : Bool

def helpOption : OptionSpec := ⟨"--help", false⟩

def pathOption : OptionSpec := ⟨"--path", true⟩

def portOption : OptionSpec := ⟨"--port", true⟩

/-- What a command is given: options in their order, each with its value, and other arguments. -/
structure Given where
  options : List (String × String)
  others : List String

/-- The value of an option that is given; of several the last one counts. -/
def Given.option? (given : Given) (spec : OptionSpec) : Option String :=
  given.options.reverse.lookup spec.name

def Given.addOption (name value : String) (given : Given) : Given :=
  { given with options := (name, value) :: given.options }

def Given.addOther (arg : String) (given : Given) : Given :=
  { given with others := arg :: given.others }

/-- An option with its value in the same argument, as in `--port=80`. -/
def splitOption (arg : String) : String × Option String :=
  let (name, rest) := arg.toList.span (· ≠ '=')
  (String.ofList name, match rest with
    | [] => none
    | _ :: value => some (String.ofList value))

/-- Whether an argument is to be taken as an option. -/
def isOption (arg : String) : Bool :=
  match arg.toList with
  | '-' :: _ :: _ => true
  | _ => false

/-- Sorts out the arguments of a command. Options stand anywhere up to a `--`. -/
def sortOut (specs : List OptionSpec) : List String → Option Given
  | [] => some ⟨[], []⟩
  | arg :: args =>
    if arg == "--" then some ⟨[], args⟩
    else if !isOption arg then (sortOut specs args).map (·.addOther arg)
    else
      let (name, value?) := splitOption arg
      match specs.find? (·.name == name), value? with
      | none, _ => none
      | some ⟨_, false⟩, none => (sortOut specs args).map (·.addOption name "")
      | some ⟨_, false⟩, some _ => none
      | some ⟨_, true⟩, some value => (sortOut specs args).map (·.addOption name value)
      | some ⟨_, true⟩, none =>
        match args with
        | value :: args => (sortOut specs args).map (·.addOption name value)
        | [] => none

def optionsHelp : String :=
  "  --path TEXT  JSON-RPC endpoint, defaults to BASE_URL\n" ++
  "  --help       Show this message and exit.\n"

def describeHelp : String :=
  "Usage: cli describe [OPTIONS] BASE_URL\n\n  List the types and methods of a service.\n\n" ++
  "Options:\n" ++ optionsHelp

def callHelp : String :=
  "Usage: cli call [OPTIONS] BASE_URL METHOD [ARGS]...\n\n" ++
  "  Call METHOD with ARGS, each given as JSON.\n\nOptions:\n" ++ optionsHelp

def serveHelp : String :=
  "Usage: cli serve [OPTIONS] BASE_URL\n\n" ++
  "  Serve forms for trying out the methods from a browser.\n\nOptions:\n" ++
  "  --path TEXT     JSON-RPC endpoint, defaults to BASE_URL\n" ++
  "  --port INTEGER  Port of the explorer\n" ++
  "  --help          Show this message and exit.\n"

def overview : String :=
  "Usage: cli [OPTIONS] COMMAND [ARGS]...\n\n  Generated JSON-RPC client.\n\nOptions:\n" ++
  "  -v, --verbose  Log requests and responses\n" ++
  "  --help         Show this message and exit.\n\nCommands:\n" ++
  "  call      Call METHOD with ARGS, each given as JSON.\n" ++
  "  describe  List the types and methods of a service.\n" ++
  "  serve     Serve forms for trying out the methods from a browser.\n"

def defaultPort : Int := 5000

/-- Reads a command from what it is given. Asking for help goes before anything that is missing. -/
def Command.ofGiven? (specs : List OptionSpec) (help : String) (args : List String)
    (command? : Given → Option Command) : Option Command := do
  let given ← sortOut (specs ++ [helpOption]) args
  if (given.option? helpOption).isSome then return .help help
  command? given

def describe? (args : List String) : Option Command :=
  Command.ofGiven? [pathOption] describeHelp args fun given =>
    match given.others with
    | [base] => some (.describe base (given.option? pathOption))
    | _ => none

def call? (args : List String) : Option Command :=
  Command.ofGiven? [pathOption] callHelp args fun given =>
    match given.others with
    | base :: method :: args => some (.call base method args (given.option? pathOption))
    | _ => none

def serve? (args : List String) : Option Command :=
  Command.ofGiven? [pathOption, portOption] serveHelp args fun given => do
    let port ← match given.option? portOption with
      | some text => integer? text
      | none => some defaultPort
    match given.others with
    | [base] => some (.serve base (given.option? pathOption) port)
    | _ => none

/-- The commands by their names, each with what reads its arguments. -/
def commands : List (String × (List String → Option Command)) :=
  [("call", call?), ("describe", describe?), ("serve", serve?)]

/-- Whether an argument is one of the flags that go before a command, or several short ones. -/
def isVerbose (arg : String) : Bool :=
  arg == "--verbose" || (isOption arg && (arg.toList.drop 1).all (· == 'v'))

/-- Takes the flags off the front of a command line, up to a `--`: whether help is among them, and
the rest. There is no other option. -/
def takeFlags (help : Bool) : List String → Option (Bool × List String)
  | [] => some (help, [])
  | arg :: args =>
    if arg == "--" then some (help, args)
    else if arg == "--help" then takeFlags true args
    else if isVerbose arg then takeFlags help args
    else if isOption arg then none
    else some (help, arg :: args)

/-- Reads a whole command line. Where no command is named, what follows the flags is searched for
flags once more, so that help can still be asked for behind a `--`. -/
def parse (args : List String) : Option Command := do
  let (help, rest) ← takeFlags false args
  if help then return .help overview
  let (name, args) ← rest.head?.map (·, rest.tail)
  match commands.lookup name with
  | some read => read args
  | none =>
    let (help, _) ← takeFlags false rest
    if help then some (.help overview) else none

end CommandLine

end ServiceClient
