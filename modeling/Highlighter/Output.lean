import Highlighter.Markup
import Highlighter.Text.Columns

/-! How the lines with their spans are written: in colour for a terminal, or in words. -/
namespace Highlighter

namespace Terminal

/-! ## Escape sequences -/

/-- A change of what the terminal shows from there on. -/
inductive Escape
  | foreground (number : Nat)
  | background (number : Nat)
  | bold
  | italic
  | underline
  | reverse
  /-- Back to the terminal's own colours, without attributes. -/
  | reset
deriving DecidableEq, Repr

def Escape.parameters : Escape → String
  | foreground number => "38;5;" ++ toString number
  | background number => "48;5;" ++ toString number
  | bold => "1"
  | italic => "3"
  | underline => "4"
  | reverse => "7"
  | reset => "0"

def Escape.text (escape : Escape) : Text :=
  '\x1b' :: '[' :: (escape.parameters.toList ++ ['m'])

/-- The number of a colour in the terminal's palette; the default colour has none. -/
def paletteNumber? : Color → Option Nat
  | .default => none
  | .black => some 0
  | .red => some 1
  | .green => some 2
  | .yellow => some 3
  | .blue => some 4
  | .magenta => some 5
  | .cyan => some 6
  | .white => some 7
  | .brightBlack => some 8
  | .brightRed => some 9
  | .brightGreen => some 10
  | .brightYellow => some 11
  | .brightBlue => some 12
  | .brightMagenta => some 13
  | .brightCyan => some 14
  | .brightWhite => some 15

/-- The changes that lead from the default style to another one. -/
def escapesOf (style : Style) : List Escape :=
  ((paletteNumber? style.fg).map .foreground).toList ++
    ((paletteNumber? style.bg).map .background).toList ++
    (if style.bold then [.bold] else []) ++ (if style.italic then [.italic] else []) ++
    (if style.underline then [.underline] else []) ++ (if style.reverse then [.reverse] else [])

/-- A text in a style: the changes, the text, and two resets, of attributes and of colours. The
default style needs none of them. -/
def styled (style : Style) (text : Text) : Text :=
  if style.isDefault then text
  else (escapesOf style).flatMap Escape.text ++ text ++ Escape.reset.text ++ Escape.reset.text

/-! ## Lines -/

/-- The line from byte `pos` on, each span in the style of its category; `none` if a span cuts a
character. A span that begins before `pos` or is empty is left out, and what lies past the end of the
line does not count. -/
def spansFrom (theme : Theme) (text : Text) (pos : Nat) : List Span → Option Text
  | [] => text.slice? pos text.byteLength
  | span :: spans =>
    let start := min span.start text.byteLength
    let stop := min span.stop text.byteLength
    if start < pos ∨ stop ≤ start then spansFrom theme text pos spans
    else do
      let between ← text.slice? pos start
      let body ← text.slice? start stop
      let rest ← spansFrom theme text stop spans
      return between ++ styled (theme.style span.category) body ++ rest

/-- The line with its spans in colour, and a line end. -/
def coloredLine (theme : Theme) (text : Text) (spans : List Span) : Option Text :=
  (spansFrom theme text 0 spans).map (· ++ ['\n'])

def plainLine (text : Text) : Text := text ++ ['\n']

def line (theme : Theme) (color : Bool) (text : Text) (spans : List Span) : Option Text :=
  if color then coloredLine theme text spans else some (plainLine text)

end Terminal

/-! ## Reports -/

namespace Report

/-- One span as `line:first-last Category text`. Lines and columns count from 1, and a span takes at
least one column; `none` if the span is no part of the line. -/
def describe? (line : Nat) (text : Text) (span : Span) : Option String := do
  let before ← text.slice? 0 span.start
  let body ← text.slice? span.start span.stop
  let first := before.columns + 1
  let last := first + max body.columns 1 - 1
  return toString (line + 1) ++ ":" ++ toString first ++ "-" ++ toString last ++ " " ++
    span.category.name ++ " " ++ String.ofList body

/-- The spans of a line that are parts of it; the first line is 0. -/
def entries (line : Nat) (text : Text) (spans : List Span) : List String :=
  spans.filterMap (describe? line text)

end Report

end Highlighter
