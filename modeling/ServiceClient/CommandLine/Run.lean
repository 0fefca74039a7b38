import ServiceClient.CommandLine.Command
import ServiceClient.Explorer
import ServiceClient.Text.Terminal

/-!
Running commands: `describe` lists a service, `call` calls a method, and `serve` starts the
explorer. `CommandLine.run` is the whole of it but for the listening.
-/

namespace ServiceClient

namespace CommandLine

/-- How a run ends: with output, with a reported failure, with one that is not reported, or with the
explorer listening on a port. A wrong use of the command line has no output of its own. -/
inductive Outcome
  | done (output : String)
  | reported (message : String)
  | escaped (failure : Failure)
  | serving (port : Int) (explorer : Explorer)
  | usage

/-- What a failure is reported as on the command line. -/
def report? (failure : Failure) : Option String :=
  match failure with
  | .binding .. => failure.message?
  | .misuse .receiverGiven => some "Record.__init__() got multiple values for argument 'self'"
  | _ => if failure.isReported then failure.message? else none

def ofFailure (failure : Failure) : Outcome :=
  match report? failure with
  | some message => .reported message
  | none => .escaped failure

/-- The listing of a service: its name, its types and its methods. -/
def listing (client : Client) : String :=
  let name := match client.serviceName with
    | .null => ""
    | v => v.plainText
  let types := client.types.map fun type => "  type " ++ type.summary
  let methods := client.methodList.map fun (_, m) => "  " ++ m.signature
  String.join ((name :: types ++ methods).map (· ++ "\n"))

/-- The arguments of a call, each a JSON text. -/
def readArguments : List String → Except String (List Value)
  | [] => .ok []
  | text :: texts =>
    match Json.parse text with
    | .error fault => .error ("Arguments must be JSON: " ++ fault.message text)
    | .ok v => do return v :: (← readArguments texts)

/-- Makes records of the objects given for parameters; arguments beyond the last parameter stay. -/
def convertArguments (types : List RecordType) :
    List Parameter → List Value → Except Failure (List Value)
  | p :: params, v :: values => do
    return (← v.ofWire types p.type) :: (← convertArguments types params values)
  | _, values => .ok values

/-- Calls a method of a service with arguments given as JSON texts. -/
def callMethod (client : Client) (method : String) (args : List String) (link : Link) :
    Outcome × Link :=
  match client.method? method with
  | none => (.reported ("Unknown method: " ++ method), link)
  | some m =>
    match readArguments args with
    | .error message => (.reported message, link)
    | .ok values =>
      match convertArguments client.types m.params values with
      | .error failure => (ofFailure failure, link)
      | .ok values =>
        let (result, link) := client.call m values [] link
        match result >>= Json.writeIndented with
        | .ok text => (.done (text ++ "\n"), link)
        | .error failure => (ofFailure failure, link)

/-- Loads a service and goes on with it. -/
def withClient (base : String) (endpoint : Option String) (link : Link)
    (next : Client → Link → Outcome × Link) : Outcome × Link :=
  match Client.load base endpoint link with
  | (.ok client, link) => next client link
  | (.error failure, link) =>
    (match failure.isReported, failure.message? with
      | true, some message => .reported message
      | _, _ => .escaped failure, link)

/-- Runs a command. -/
def Command.run (link : Link) : Command → Outcome × Link
  | .help text => (.done text, link)
  | .describe base endpoint =>
    withClient base endpoint link fun client link => (.done (listing client), link)
  | .call base method args endpoint =>
    withClient base endpoint link fun client link => callMethod client method args link
  | .serve base endpoint port =>
    withClient base endpoint link fun client link =>
      match Explorer.mount client "" with
      | .ok explorer => (.serving port explorer, link)
      | .error failure => (.escaped failure, link)

/-- Runs a command line. -/
def run (args : List String) (link : Link) : Outcome × Link :=
  match parse args with
  | some command => command.run link
  | none => (.usage, link)

def Outcome.exitCode : Outcome → Nat
  | done _ | serving .. => 0
  | reported .. | escaped .. => 1
  | usage => 2

/-- What a run prints. The names and messages in it do not control a terminal. -/
def Outcome.output : Outcome → String
  | done output => outputText output
  | reported message => outputText ("Error: " ++ message ++ "\n")
  | escaped _ | serving .. | usage => ""

end CommandLine

end ServiceClient
