import Highlighter.Fault
import Highlighter.Text.Character

/-! Colours, and how a piece of text is shown. -/
namespace Highlighter

/-! ## The sixteen terminal colours and the terminal's own one -/

/-- A colour of the terminal's palette, or the one that it shows by default. -/
inductive Color
  | default
  | black
  | red
  | green
  | yellow
  | blue
  | magenta
  | cyan
  | white
  | brightBlack
  | brightRed
  | brightGreen
  | brightYellow
  | brightBlue
  | brightMagenta
  | brightCyan
  | brightWhite
deriving DecidableEq, Repr, Inhabited

namespace Color

def all : List Color :=
  [default, black, red, green, yellow, blue, magenta, cyan, white, brightBlack, brightRed,
    brightGreen, brightYellow, brightBlue, brightMagenta, brightCyan, brightWhite]

def name : Color → String
  | default => "Default"
  | black => "Black"
  | red => "Red"
  | green => "Green"
  | yellow => "Yellow"
  | blue => "Blue"
  | magenta => "Magenta"
  | cyan => "Cyan"
  | white => "White"
  | brightBlack => "BrightBlack"
  | brightRed => "BrightRed"
  | brightGreen => "BrightGreen"
  | brightYellow => "BrightYellow"
  | brightBlue => "BrightBlue"
  | brightMagenta => "BrightMagenta"
  | brightCyan => "BrightCyan"
  | brightWhite => "BrightWhite"

/-- A name in lower case, without dashes and underscores. -/
def normalize (name : Text) : Text :=
  (name.filter fun c => c != '-' && c != '_').map Char.toLower

/-- The colour of a normalized name; bright black is also called grey. -/
def ofNormalized? (name : Text) : Option Color :=
  if name ∈ ["gray".toList, "grey".toList] then some brightBlack
  else all.find? fun color => color.name.toList.map Char.toLower == name

/-- The colour with a name, whatever its case, dashes and underscores. -/
def ofName? (name : Text) : Option Color :=
  ofNormalized? (normalize name)

end Color

/-! ## Styles -/

structure Style where
  fg : Color := .default
  bg : Color := .default
  bold : Bool := false
  italic : Bool := false
  underline : Bool := false
  reverse : Bool := false
deriving DecidableEq, Repr, Inhabited

/-- Nothing sets the text apart. -/
def Style.isDefault (style : Style) : Bool :=
  style == {}

/-! ## Styles in words, such as `white on red bold` -/

namespace Style

/-- What one word of a description asks for. -/
inductive Word
  | bold
  | italic
  | underline
  | reverse
  /-- The next word names the background. -/
  | on
  /-- The word names the foreground. -/
  | color

/-- The meaning of a word, whatever its ASCII case. -/
def Word.ofText (word : Text) : Word :=
  let lower := word.map Char.toLower
  if lower = "bold".toList then bold
  else if lower = "italic".toList then italic
  else if lower = "underline".toList then underline
  else if lower = "reverse".toList then reverse
  else if lower = "on".toList then on
  else color

def colorOf (word : Text) : Except Fault Color :=
  match Color.ofName? word with
  | some color => .ok color
  | none => .error (.unknownColor (String.ofList word))

/-- The style that words add to another one. `description` is reported if a background is missing. -/
def extend (description : String) (style : Style) : List Text → Except Fault Style
  | [] => .ok style
  | word :: words =>
    match Word.ofText word, words with
    | .bold, words => extend description { style with bold := true } words
    | .italic, words => extend description { style with italic := true } words
    | .underline, words => extend description { style with underline := true } words
    | .reverse, words => extend description { style with reverse := true } words
    | .on, [] => .error (.unknownColor description)
    | .on, name :: words =>
      match colorOf name with
      | .ok color => extend description { style with bg := color } words
      | .error e => .error e
    | .color, words =>
      match colorOf word with
      | .ok color => extend description { style with fg := color } words
      | .error e => .error e

/-- The style that a description asks for. The last foreground and the last background count. -/
def parse (description : String) : Except Fault Style :=
  extend description {} (Text.words description.toList)

end Style

end Highlighter
