/-! Texts as lists of characters, measured in bytes of their UTF-8 form. -/
namespace Highlighter

/-- A text: one line of a script, a file, a description. -/
abbrev Text := List Char

namespace Text

/-- The number of bytes of the UTF-8 form. -/
def byteLength : Text → Nat
  | [] => 0
  | c :: cs => c.utf8Size + byteLength cs

@[simp] theorem byteLength_nil : byteLength [] = 0 := rfl

@[simp] theorem byteLength_cons (c : Char) (cs : Text) :
    byteLength (c :: cs) = c.utf8Size + byteLength cs := rfl

@[simp] theorem byteLength_append (s t : Text) :
    byteLength (s ++ t) = byteLength s + byteLength t := by
  induction s with
  | nil => simp
  | cons c s ih => simp [ih, Nat.add_assoc]

/-- The characters before byte `n` and those from it on; `none` inside a character or past the end. -/
def splitAt? : Text → Nat → Option (Text × Text)
  | cs, 0 => some ([], cs)
  | [], _ + 1 => none
  | c :: cs, n + 1 =>
    if c.utf8Size ≤ n + 1 then
      (splitAt? cs (n + 1 - c.utf8Size)).map fun parts => (c :: parts.1, parts.2)
    else none

/-- The characters between two bytes, if both are boundaries in this order. -/
def slice? (text : Text) (start stop : Nat) : Option Text :=
  if start ≤ stop then
    (text.splitAt? start).bind fun parts => (Text.splitAt? parts.2 (stop - start)).map Prod.fst
  else none

/-- A carriage return that ends a line belongs to the line's end. -/
def dropReturn (line : Text) : Text :=
  if line.getLast? = some '\r' then line.dropLast else line

/-- The lines of a text; `line` holds the characters of the current one, last first. -/
def linesFrom (line : Text) : Text → List Text
  | [] => if line.isEmpty then [] else [line.reverse]
  | c :: cs => if c = '\n' then dropReturn line.reverse :: linesFrom [] cs else linesFrom (c :: line) cs

/-- The lines of a text without their ends, `\n` or `\r\n`; a last line needs no end. -/
def lines (text : Text) : List Text :=
  linesFrom [] text

/-! ## File names -/

/-- The parts of a text between slashes. -/
def slashParts : Text → List Text
  | [] => [[]]
  | c :: cs =>
    match c, slashParts cs with
    | '/', parts => [] :: parts
    | c, part :: parts => (c :: part) :: parts
    | c, [] => [[c]]

/-- The last name of a path. Empty parts and single dots count for nothing, and a path that leads
upwards has none. -/
def fileName? (path : Text) : Option Text :=
  let names := (slashParts path).filter fun part => !(part.isEmpty || part == ['.'])
  match names.getLast? with
  | none | some ['.', '.'] => none
  | some name => some name

/-- What follows the last dot of a path's last name, unless the dot is its first character. -/
def extension? (path : Text) : Option Text :=
  match fileName? path with
  | none => none
  | some name =>
    let tail := name.reverse.takeWhile (· != '.')
    if tail.length + 1 < name.length then some tail.reverse else none

end Text

end Highlighter
