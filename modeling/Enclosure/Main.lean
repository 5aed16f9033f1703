import Enclosure.Command.Report
import Enclosure.FileStore
import Enclosure.TreeTable.Lines

/-!
# The program

Reads the files that a request names, takes the tree of the source text from
standard input, and prints the transcript of the request. Everything else is
decided by `Command.Request`.
-/

set_option autoImplicit false

namespace Enclosure

/-- What a refusal of the system means. A refusal that concerns the path names
the file; reading a directory is refused without a name. -/
def ReadProblem.ofSystem : IO.Error → ReadProblem
  | .noFileOrDirectory _ _ _ => .missing
  | .inappropriateType none _ _ => .isADirectory
  | .inappropriateType (some _) _ _ => .notADirectory
  | other => .refused (toString other)

/-- The text of a file. -/
def readText (path : String) : IO (Except ReadProblem String) := do
  try
    return FileStore.decode (← IO.FS.readBinFile path)
  catch refusal =>
    return .error (.ofSystem refusal)

/-- The lines that are left in a stream. -/
partial def remainingLines (stream : IO.FS.Stream) (reversed : List String) :
    IO (List String) := do
  let line ← stream.getLine
  if line.isEmpty then return reversed.reverse
  let row := String.ofList (line.toList.filter fun c => c != '\n' && c != '\r')
  remainingLines stream (row :: reversed)

/-- What an invocation can use: its files, and the tree on standard input when
there is a source text. -/
def Command.Invocation.surroundings (invocation : Command.Invocation) :
    IO Command.Surroundings := do
  let paths := invocation.settingsPath.toList ++ [invocation.file]
  let texts ← paths.mapM fun path => do return (path, ← readText path)
  let read := fun path => (texts.lookup path).getD (.error .missing)
  match read invocation.file with
  | .error _ => return ⟨read, .ofLines []⟩
  | .ok _ => return ⟨read, .ofLines (← remainingLines (← IO.getStdin) [])⟩

/-- What a request can use. -/
def Command.Request.surroundings : Command.Request → IO Command.Surroundings
  | .run invocation => invocation.surroundings
  | .version | .help | .misuse => return ⟨fun _ => .error .missing, .ofLines []⟩

end Enclosure

/-- Answer the arguments. -/
def main (arguments : List String) : IO UInt32 := do
  let request := Enclosure.Command.Request.ofArguments arguments
  let transcript := request.transcript (← request.surroundings)
  (← IO.getStdout).putStr transcript.output
  (← IO.getStderr).putStr transcript.errors
  return transcript.code
