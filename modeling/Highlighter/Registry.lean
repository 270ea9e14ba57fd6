import Highlighter.Mode
import Highlighter.Settings

/-! Modes by name and by extension, and the highlighted lines of open buffers. -/
namespace Highlighter

/-- An open buffer: its mode, and the states and spans of the first lines, which need not be
highlighted again. -/
structure Buffer where
  mode : Option String := none
  states : List LineState := []
  spans : List (List Span) := []
deriving DecidableEq, Repr

namespace Buffer

/-- The number of lines that need not be highlighted again. -/
def validLines (buffer : Buffer) : Nat := buffer.spans.length

def lines (buffer : Buffer) : List HighlightedLine :=
  List.zipWith HighlightedLine.mk buffer.spans buffer.states

/-- The buffer with the lines from `line` on to be highlighted again. -/
def invalidateFrom (buffer : Buffer) (line : Nat) : Buffer :=
  { buffer with states := buffer.states.take line, spans := buffer.spans.take line }

def setMode (buffer : Buffer) (mode : Option String) : Buffer :=
  { buffer with mode := mode }.invalidateFrom 0

/-- The state after the last line that is kept. -/
def lastState (buffer : Buffer) : LineState :=
  match buffer.validLines with
  | 0 => .normal
  | n + 1 => buffer.states[n]?.getD .normal

/-- The buffer with all of the given lines highlighted; lines that are kept are taken as they are. -/
def highlight (buffer : Buffer) (engine : Engine) (lines : List Text) : Buffer :=
  let kept := buffer.invalidateFrom lines.length
  let added := engine.highlightFrom kept.lastState (lines.drop kept.validLines)
  { kept with
    states := kept.states ++ added.map HighlightedLine.state
    spans := kept.spans ++ added.map HighlightedLine.spans }

end Buffer

/-- Modes by name, mode names by extension, and buffers by number. -/
structure Registry where
  modes : SortedMap String Mode := {}
  claims : SortedMap String String := {}
  buffers : SortedMap Nat Buffer := {}
  enabled : Bool := true
deriving DecidableEq, Repr

namespace Registry

/-- The extensions of a mode lead to it from now on. -/
def claim (registry : Registry) (mode : Mode) : Registry :=
  { registry with
    claims := mode.extensions.foldl (fun claims ext => claims.insert ext mode.name)
      registry.claims }

/-- The registry with one more mode, or with another one of its name. -/
def register (registry : Registry) (mode : Mode) : Registry :=
  let claimed := registry.claim mode
  { claimed with modes := claimed.modes.insert mode.name mode }

def builtin : Registry :=
  (({} : Registry).register .ecmaScript).register (.actionScript .ecmaScript)

def get? (registry : Registry) (name : String) : Option Mode := registry.modes.get? name

def modeNames (registry : Registry) : List String := registry.modes.keys

/-- The name of the mode that claims a file's extension. -/
def detect? (registry : Registry) (file : Text) : Option String :=
  (Text.extension? file).bind fun ext =>
    registry.claims.get? (String.ofList (Text.toLower ext))

/-- More extensions for modes. The first mode that is not registered ends it; what was done before
stays. -/
def addExtensions (registry : Registry) :
    List (String × List String) → Registry × Except Fault Unit
  | [] => (registry, .ok ())
  | (name, extensions) :: more =>
    match registry.get? name with
    | none => (registry, .error (.unknownMode name))
    | some mode => (registry.register (mode.addExtensions extensions)).addExtensions more

/-- Puts settings into force. What was done before a failure stays. -/
def applySettings (registry : Registry) (settings : Settings) : Registry × Except Fault Unit :=
  { registry with enabled := settings.highlighting }.addExtensions settings.extensions.entries

/-- A buffer; one that was not used yet is empty, and stays unused when it is read. -/
def buffer (registry : Registry) (number : Nat) : Buffer :=
  (registry.buffers.get? number).getD {}

def setBuffer (registry : Registry) (number : Nat) (buffer : Buffer) : Registry :=
  { registry with buffers := registry.buffers.insert number buffer }

def removeBuffer (registry : Registry) (number : Nat) : Registry :=
  { registry with buffers := registry.buffers.erase number }

/-- The registry with a buffer in another mode, registered or not. -/
def setMode (registry : Registry) (number : Nat) (mode : Option String) : Registry :=
  registry.setBuffer number ((registry.buffer number).setMode mode)

def setModeOfFile (registry : Registry) (number : Nat) (file : Option Text) : Registry :=
  registry.setMode number (file.bind registry.detect?)

/-- The registry with a buffer in a mode that has to be registered. -/
def setModeByName (registry : Registry) (number : Nat) (name : String) : Except Fault Registry :=
  if (registry.get? name).isSome then .ok (registry.setMode number (some name))
  else .error (.unknownMode name)

/-- The registry with the lines of a buffer from `line` on to be highlighted again. A buffer that was
not used yet stays unused. -/
def invalidateFrom (registry : Registry) (number line : Nat) : Registry :=
  match registry.buffers.get? number with
  | none => registry
  | some buffer => registry.setBuffer number (buffer.invalidateFrom line)

/-- The mode in which a buffer is highlighted, if it is. -/
def activeMode? (registry : Registry) (number : Nat) : Option Mode :=
  if registry.enabled then (registry.buffer number).mode.bind registry.get? else none

/-- The spans of a buffer's lines. Lines that are kept are not highlighted again; where nothing is to
be highlighted, every line is without spans, and the buffer is used from now on all the same. -/
def highlightLines (registry : Registry) (number : Nat) (lines : List Text) :
    Registry × List (List Span) :=
  let buffer := registry.buffer number
  match registry.activeMode? number with
  | none => (registry.setBuffer number buffer, lines.map fun _ => [])
  | some mode =>
    let highlighted := buffer.highlight mode.engine lines
    (registry.setBuffer number highlighted, highlighted.spans)

end Registry

end Highlighter
