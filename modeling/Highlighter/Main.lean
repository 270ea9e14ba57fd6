import Highlighter.CommandLine.Run

/-! The program: reads what the command line names, runs it, and writes what comes of it. -/
namespace Highlighter

/-- The fault of a read that failed. -/
def ReadFault.ofError : IO.Error → ReadFault
  | .noFileOrDirectory .. => .notFound
  | .inappropriateType (some _) 20 _ | .inappropriateType none 20 _ => .notDirectory
  | .inappropriateType .. => .isDirectory
  | e => .other (toString e)

/-- The text of bytes. -/
def textOfBytes (bytes : ByteArray) : Except ReadFault Text :=
  match String.fromUTF8? bytes with
  | some s => .ok s.toList
  | none => .error .notText

def readFile (name : String) : IO (Except ReadFault Text) := do
  try return textOfBytes (← IO.FS.readBinFile name)
  catch e => return .error (.ofError e)

partial def readRest (stream : IO.FS.Stream) (read : ByteArray) : IO ByteArray := do
  let more ← stream.read 65536
  if more.isEmpty then return read else readRest stream (read ++ more)

def readInput : IO (Except ReadFault Text) := do
  try return textOfBytes (← readRest (← IO.getStdin) .empty)
  catch e => return .error (.ofError e)

/-- The text of the user's settings: of the file that the environment names, or of the one in the
home directory. -/
def readSettings : IO (Except ReadFault Text) := do
  match ← IO.getEnv "ASHL_CONFIG", ← IO.getEnv "HOME" with
  | some name, _ => readFile name
  | none, some home => readFile (home ++ "/.ashl.toml")
  | none, none => return .error .notFound

/-- All that a command line can read. -/
def readSources (args : List String) : IO Sources := do
  let inputs :=
    match Options.parse args with
    | .ok options => if options.showsFiles then options.inputs else []
    | .error _ => []
  let input ← if "-" ∈ inputs then readInput else pure (.ok [])
  let files ← (inputs.filter (· ≠ "-")).mapM fun name => return (name, ← readFile name)
  return {
    settings := ← readSettings
    input := input
    file := fun name => (files.lookup name).getD (.error .notFound)
    terminal := ← (← IO.getStdout).isTty }

end Highlighter

def main (args : List String) : IO UInt32 := do
  let outcome := Highlighter.CommandLine.run args (← Highlighter.readSources args)
  (← IO.getStdout).putStr (String.ofList outcome.output)
  (← IO.getStdout).flush
  (← IO.getStderr).putStr outcome.errorOutput
  return UInt32.ofNat outcome.code
