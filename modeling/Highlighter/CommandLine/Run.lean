import Highlighter.CommandLine.Options
import Highlighter.Output
import Highlighter.Registry

/-! The work of the command line, apart from reading and writing. -/
namespace Highlighter

/-- What the command line can read. The log filter, `ASHL_LOG`, is not part of it: runs are those of the
default filter, under which nothing is logged. -/
structure Sources where
  settings : Except ReadFault Text
  /-- What is left of standard input. -/
  input : Except ReadFault Text
  file : String → Except ReadFault Text
  terminal : Bool := false

/-- What was written, and the failure that ended it. -/
structure Outcome where
  output : Text := []
  failure : Option Fault := none

namespace Outcome

def code (outcome : Outcome) : Nat := if outcome.failure.isSome then 1 else 0

/-- The error output. Under another log filter the lines of the log would stand before it. -/
def errorOutput (outcome : Outcome) : String :=
  match outcome.failure with
  | some fault => "Error: " ++ fault.message ++ "\n"
  | none => ""

/-- The outcome after some output. -/
def after (output : Text) (outcome : Outcome) : Outcome :=
  { outcome with output := output ++ outcome.output }

end Outcome

namespace CommandLine

def version : String := "0.1.0"

def usage : List String :=
  ["ashl " ++ version ++ " - ActionScript syntax highlighter",
    "",
    "Usage: ashl [OPTIONS] [FILE]...",
    "",
    "Reads standard input when no FILE (or '-') is given.",
    "",
    "Options:",
    "  -m, --mode NAME  Highlight with mode NAME instead of detecting it",
    "  -s, --spans      List highlighted spans instead of printing text",
    "      --no-color   Never emit color",
    "      --list-modes List modes with their extensions and electric keys",
    "  -h, --help       Show this help message",
    "  -V, --version    Show version information",
    "",
    "Environment:",
    "  ASHL_CONFIG      Config file (default ~/.ashl.toml)",
    "  ASHL_LOG         Log filter, e.g. 'debug'"]

/-- Lines of output, each with a line end. -/
def linesOf (lines : List String) : Text :=
  lines.flatMap fun line => Terminal.plainLine line.toList

/-- The text with spaces after it, up to a number of characters. -/
def padEnd (width : Nat) (text : Text) : Text :=
  text ++ List.replicate (width - text.length) ' '

/-- A mode in one line: its names, its extensions and its keys. -/
def describeMode (mode : Mode) : Text :=
  let extensions := "." ++ " .".intercalate mode.extensions
  let columns := padEnd 14 mode.name.toList ++ [' '] ++ padEnd 14 mode.label.toList ++ [' '] ++
    padEnd 16 extensions.toList ++ [' ']
  Text.trimEnd (columns ++ mode.keymap.bindings.map Prod.fst)

/-- The modes of a registry, one a line. -/
def listModes (registry : Registry) : Text :=
  (registry.modeNames.filterMap registry.get?).flatMap fun mode =>
    Terminal.plainLine (describeMode mode)

/-- The settings in force: the user's, or the default ones if there is no file of them. -/
def settingsOf (sources : Sources) : Except Fault Settings :=
  match sources.settings with
  | .ok text => Settings.parse text
  | .error .notFound => .ok {}
  | .error cause => .error (.unreadable cause)

/-- The text of a file, or what is left of standard input; and the sources after reading it. -/
def read (sources : Sources) (file : String) : Except Fault (Text × Sources) :=
  if file = "-" then
    match sources.input with
    | .ok text => .ok (text, { sources with input := .ok [] })
    | .error cause => .error (.unreadable cause)
  else
    match sources.file file with
    | .ok text => .ok (text, sources)
    | .error cause => .error (.unreadable cause)

/-- The registry with a buffer in the mode that was asked for, or else in the one of its file. -/
def chooseMode (registry : Registry) (number : Nat) (file : String) (mode : Option String) :
    Except Fault Registry :=
  match mode with
  | some name => registry.setModeByName number name
  | none =>
    let chosen := registry.setModeOfFile number (some file.toList)
    if (chosen.buffer number).mode.isSome then .ok chosen else .error (.undetectedMode file)

/-- The reports of consecutive lines with their spans, of which the first has the given number. -/
def reportFrom (number : Nat) : List (Text × List Span) → Text
  | [] => []
  | (text, spans) :: lines =>
    linesOf (Report.entries number text spans) ++ reportFrom (number + 1) lines

/-- Lines with their spans as they are written. Spans of highlighting cut no character. -/
def showLines (theme : Theme) (color : Bool) (lines : List (Text × List Span)) : Text :=
  lines.flatMap fun (text, spans) =>
    (Terminal.line theme color text spans).getD (Terminal.plainLine text)

/-- Shows files one after the other, as buffers that are numbered from `number` on, up to the first
that fails. -/
def showFiles (options : Options) (theme : Theme) (color : Bool) (registry : Registry)
    (sources : Sources) (number : Nat) : List String → Outcome
  | [] => {}
  | file :: files =>
    match read sources file with
    | .error e => { failure := some e }
    | .ok (text, sources) =>
      match chooseMode registry number file options.mode with
      | .error e => { failure := some e }
      | .ok registry =>
        let lines := Text.lines text
        let (registry, spans) := registry.highlightLines number lines
        let shown :=
          if options.spans then reportFrom 0 (lines.zip spans)
          else showLines theme color (lines.zip spans)
        (showFiles options theme color (registry.removeBuffer number) sources (number + 1)
          files).after shown

/-- What the options ask for, under settings. -/
def runWith (options : Options) (settings : Settings) (sources : Sources) : Outcome :=
  match Registry.builtin.applySettings settings with
  | (_, .error e) => { failure := some e }
  | (registry, .ok ()) =>
    if options.listModes then { output := listModes registry }
    else
      let color := settings.color && !options.noColor && sources.terminal
      showFiles options settings.theme color registry sources 0 options.inputs

/-- Runs a command line. Help and version are told without a look at the settings. -/
def run (args : List String) (sources : Sources) : Outcome :=
  match Options.parse args with
  | .error e => { failure := some e }
  | .ok options =>
    if options.help then { output := linesOf usage }
    else if options.version then { output := linesOf ["ashl " ++ version] }
    else
      match settingsOf sources with
      | .error e => { failure := some e }
      | .ok settings => runWith options settings sources

end CommandLine

end Highlighter
