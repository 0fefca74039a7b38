import ServiceClient.CommandLine.Run

/-!
The program. A command that asks the server reads its replies from standard input, one line each;
the requests sent are not shown. A command that serves the explorer prints its index page.
-/

namespace ServiceClient

/-- The lines of standard input up to its end or an empty line. -/
partial def readReplies (input : IO.FS.Stream) : IO (List Reply) := do
  let line ← input.getLine
  let text := line.trimAscii.toString
  if text.isEmpty then return []
  return .body text 200 :: (← readReplies input)

def runProgram (args : List String) : IO UInt32 := do
  let replies ← match CommandLine.parse args with
    | none | some (.help _) => pure []
    | some _ => readReplies (← IO.getStdin)
  let (outcome, _) := CommandLine.run args (.start 0 replies)
  IO.print outcome.output
  match outcome with
  | .serving _ explorer => IO.println explorer.indexPage
  | .usage => IO.eprint CommandLine.overview
  | _ => pure ()
  return outcome.exitCode.toUInt32

end ServiceClient

def main (args : List String) : IO UInt32 := ServiceClient.runProgram args
