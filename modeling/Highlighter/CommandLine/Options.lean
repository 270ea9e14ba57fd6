import Highlighter.Fault

/-! What a command line asks for. -/
namespace Highlighter

/-- The options and files of a command line. -/
structure Options where
  mode : Option String := none
  spans : Bool := false
  noColor : Bool := false
  listModes : Bool := false
  help : Bool := false
  version : Bool := false
  files : List String := []
deriving DecidableEq, Repr

namespace Options

inductive Argument
  | help
  | version
  | spans
  | noColor
  | listModes
  /-- The next argument is the name of a mode. -/
  | mode
  | file
  | unknown
deriving DecidableEq, Repr

/-- The meaning of an argument that is no mode name. A dash alone is a file, standard input. -/
def Argument.ofString (arg : String) : Argument :=
  if arg = "--help" ∨ arg = "-h" then help
  else if arg = "--version" ∨ arg = "-V" then version
  else if arg = "--spans" ∨ arg = "-s" then spans
  else if arg = "--no-color" then noColor
  else if arg = "--list-modes" then listModes
  else if arg = "--mode" ∨ arg = "-m" then mode
  else if arg = "-" then file
  else if arg.toList.head? = some '-' then unknown
  else file

/-- The options with what more arguments ask for. Later mode names win, and files keep their order. -/
def extend (options : Options) : List String → Except Fault Options
  | [] => .ok options
  | arg :: args =>
    match Argument.ofString arg, args with
    | .help, args => extend { options with help := true } args
    | .version, args => extend { options with version := true } args
    | .spans, args => extend { options with spans := true } args
    | .noColor, args => extend { options with noColor := true } args
    | .listModes, args => extend { options with listModes := true } args
    | .mode, [] => .error (.missingModeName arg)
    | .mode, name :: args => extend { options with mode := some name } args
    | .file, args => extend { options with files := options.files ++ [arg] } args
    | .unknown, _ => .error (.unknownOption arg)

def parse (args : List String) : Except Fault Options := extend {} args

/-- The files to be shown: standard input, if none is named. -/
def inputs (options : Options) : List String :=
  if options.files.isEmpty then ["-"] else options.files

/-- The options ask for files to be shown, not for words about the program. -/
def showsFiles (options : Options) : Bool :=
  !(options.help || options.version || options.listModes)

end Options

end Highlighter
