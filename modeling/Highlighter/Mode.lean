import Highlighter.Script.ActionScript
import Highlighter.SortedMap
import Highlighter.Text.Case

/-! Modes: what belongs to the files of one kind. -/
namespace Highlighter

/-! ## Keys and the commands that they run -/

/-- Commands by key. -/
abbrev Keymap := SortedMap Char String

namespace Keymap

def empty : Keymap := {}

def bind (keymap : Keymap) (key : Char) (command : String) : Keymap := keymap.insert key command

def lookup (keymap : Keymap) (key : Char) : Option String := keymap.get? key

/-- Keys and commands, in the order of the keys. -/
def bindings (keymap : Keymap) : List (Char × String) := keymap.entries

end Keymap

/-! ## Modes -/

/-- A kind of file: its names, the mode it was derived from, the extensions it claims, its keys and
its highlighter. -/
structure Mode where
  name : String
  label : String
  parent : Option String := none
  extensions : List String := []
  keymap : Keymap := {}
  engine : Engine
deriving DecidableEq, Repr

namespace Mode

/-- A mode of its own or one derived from a parent, whose keys it takes over. Extensions are not
taken over. -/
def derive (parent : Option Mode) (name label : String) (engine : Engine) : Mode where
  name := name
  label := label
  parent := parent.map Mode.name
  keymap := (parent.map Mode.keymap).getD {}
  engine := engine

/-- The form in which an extension is kept: in lower case, without dots in front. -/
def normalizeExtension (extension : String) : String :=
  String.ofList (Text.toLower (extension.toList.dropWhile (· == '.')))

def addExtension (mode : Mode) (extension : String) : Mode :=
  let extension := normalizeExtension extension
  if extension ∈ mode.extensions then mode
  else { mode with extensions := mode.extensions ++ [extension] }

def addExtensions (mode : Mode) (extensions : List String) : Mode :=
  extensions.foldl addExtension mode

def bind (mode : Mode) (key : Char) (command : String) : Mode :=
  { mode with keymap := mode.keymap.bind key command }

def clearKeys (mode : Mode) : Mode := { mode with keymap := {} }

/-! ## The modes that are always there -/

/-- The keys that indent the current line of a script anew. -/
def electricKeys : List (Char × String) :=
  [('\x7b', "electric-brace"), ('\x7d', "electric-brace"), ('(', "electric-paren"),
    (')', "electric-paren"), (';', "electric-semi"), (',', "electric-comma"),
    (':', "electric-colon")]

/-- The mode of ECMAScript files, with all that is known about them. -/
def ecmaScript : Mode :=
  let mode := (derive none "ecmascript" "ECMAScript" (Script.ecmaScript .three)).addExtensions
    ["js", "mjs", "cjs"]
  electricKeys.foldl (fun mode key => mode.bind key.1 key.2) mode

/-- The mode of ActionScript files, derived from another one whose keys it drops. -/
def actionScript (parent : Mode) : Mode :=
  ((derive (some parent) "actionscript" "ActionScript" Script.actionScript).addExtensions
    ["as"]).clearKeys

end Mode

end Highlighter
