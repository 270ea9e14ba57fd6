import Highlighter.Category
import Highlighter.Toml.Parser

/-! What a user can set. -/
namespace Highlighter

/-- The settings: colours at all, highlighting at all, styles, and more extensions for modes. -/
structure Settings where
  color : Bool := true
  highlighting : Bool := true
  theme : Theme := {}
  extensions : SortedMap String (List String) := {}
deriving DecidableEq, Repr

namespace Settings

/-- A setting that has to be a boolean, or what holds without it. -/
def readBool (key : String) (absent : Bool) (table : Toml.Entries) : Except Fault Bool :=
  match SortedMap.find? key table with
  | none => .ok absent
  | some (.boolean b) => .ok b
  | some _ => .error (.wrongSetting key "a boolean")

/-- A setting that has to be a table, empty if it is absent. -/
def readTable (key : String) (table : Toml.Entries) : Except Fault Toml.Entries :=
  match SortedMap.find? key table with
  | none => .ok []
  | some (.table _ entries) => .ok entries
  | some _ => .error (.wrongSetting key "a table")

/-- The category and the style of one entry. An unknown category is reported before a wrong value. -/
def readStyle (name : String) (value : Toml.Value) : Except Fault (Category × Style) :=
  match Category.ofName? name.toList, value with
  | none, _ => .error (.unknownCategory name)
  | some category, .string description => (Style.parse description).map (category, ·)
  | some _, _ => .error (.wrongSetting ("styles." ++ name) "a string")

/-- The theme with the styles of entries, of which the last one for a category counts. -/
def readStyles (theme : Theme) : Toml.Entries → Except Fault Theme
  | [] => .ok theme
  | (name, value) :: entries =>
    match readStyle name value with
    | .ok (category, style) => readStyles (theme.set category style) entries
    | .error e => .error e

/-- The strings of an array of a mode's extensions. -/
def readExtensionList (mode : String) : List Toml.Value → Except Fault (List String)
  | [] => .ok []
  | .string s :: values => (readExtensionList mode values).map (s :: ·)
  | _ :: _ => .error (.wrongSetting ("extensions." ++ mode) "strings")

/-- The extensions of each mode. -/
def readExtensions : Toml.Entries → Except Fault (List (String × List String))
  | [] => .ok []
  | (mode, .array _ values) :: entries =>
    match readExtensionList mode values with
    | .ok list => (readExtensions entries).map ((mode, list) :: ·)
    | .error e => .error e
  | (mode, _) :: _ => .error (.wrongSetting ("extensions." ++ mode) "an array")

/-- The settings that a table holds; keys of other names count for nothing. -/
def ofTable (table : Toml.Entries) : Except Fault Settings := do
  let color ← readBool "color" true table
  let highlighting ← readBool "syntax" true table
  let theme ← readStyles {} (← readTable "styles" table)
  let extensions ← readExtensions (← readTable "extensions" table)
  return ⟨color, highlighting, theme, ⟨extensions⟩⟩

def parse (text : Text) : Except Fault Settings :=
  match Toml.parse text with
  | .ok table => ofTable table
  | .error cause => .error (.malformedSettings cause)

end Settings

end Highlighter
