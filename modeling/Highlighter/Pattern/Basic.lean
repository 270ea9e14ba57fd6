import Highlighter.Pattern.CharClass
import Highlighter.Text.Cursor

/-! Patterns of text: what they are built from and how they are written in other modules. -/
namespace Highlighter

/-- A condition on a place in a text; it consumes nothing. Word characters are those of every script, and
lines end at line feeds only: no condition looks for ASCII words or for carriage returns. -/
inductive Anchor
  /-- Before the first character. -/
  | textStart
  /-- After the last character. -/
  | textEnd
  /-- Before the first character of a line. -/
  | lineStart
  /-- After the last character of a line. -/
  | lineEnd
  /-- Between a word character and none. -/
  | wordBoundary
  | notWordBoundary
  | wordStart
  | wordEnd
  /-- No word character before. -/
  | wordStartHalf
  /-- No word character after. -/
  | wordEndHalf
deriving DecidableEq, Repr

/-- The character is there and is a word character. -/
def Anchor.onWord (c : Option Char) : Bool :=
  match c with
  | none => false
  | some c => Text.isWord c

/-- The place meets the condition. -/
def Anchor.holds (anchor : Anchor) (c : Cursor) : Bool :=
  let before := c.before.head?
  let after := c.rest.head?
  match anchor with
  | textStart => before.isNone
  | textEnd => after.isNone
  | lineStart => before.isNone || before == some '\n'
  | lineEnd => after.isNone || after == some '\n'
  | wordBoundary => onWord before != onWord after
  | notWordBoundary => onWord before == onWord after
  | wordStart => !onWord before && onWord after
  | wordEnd => onWord before && !onWord after
  | wordStartHalf => !onWord before
  | wordEndHalf => !onWord after

/-- Whether a choice tries more first or less first. -/
inductive Greed
  | greedy
  | lazy
deriving DecidableEq, Repr

/-- A pattern. Where several matches exist, the first one in the order of the choices counts. -/
inductive Pattern
  | empty
  | char (cls : CharClass)
  /-- A condition on the place. -/
  | anchor (anchor : Anchor)
  /-- A body whose extent is recorded under an index. -/
  | group (index : Nat) (body : Pattern)
  | seq (first second : Pattern)
  /-- A choice; the first alternative is tried first. -/
  | alt (first second : Pattern)
  /-- From `min` to `max` bodies in a row, or from `min` on. -/
  | rep (greed : Greed) (min : Nat) (max : Option Nat) (body : Pattern)
deriving DecidableEq, Repr

namespace Pattern

/-- The number of groups: the greatest index of one. -/
def groupCount : Pattern → Nat
  | empty | char _ | anchor _ => 0
  | group index body => max index body.groupCount
  | seq a b | alt a b => max a.groupCount b.groupCount
  | rep _ _ _ body => body.groupCount

/-- Patterns in a row. -/
def concat : List Pattern → Pattern
  | [] => empty
  | [p] => p
  | p :: ps => seq p (concat ps)

/-- The first of several patterns that leads to a match. -/
def firstOf : List Pattern → Pattern
  | [] => char .empty
  | [p] => p
  | p :: ps => alt p (firstOf ps)

def literal (cs : Text) : Pattern :=
  concat (cs.map fun c => char (.one c))

def text (s : String) : Pattern := literal s.toList

def star (body : Pattern) : Pattern := rep .greedy 0 none body

def plus (body : Pattern) : Pattern := rep .greedy 1 none body

def opt (body : Pattern) : Pattern := rep .greedy 0 (some 1) body

def textStart : Pattern := anchor .textStart

def textEnd : Pattern := anchor .textEnd

def wordBoundary : Pattern := anchor .wordBoundary

/-- One of several words, as a whole word and as group 1. -/
def wholeWord (words : List String) : Pattern :=
  concat [wordBoundary, group 1 (firstOf (words.map text)), wordBoundary]

end Pattern

end Highlighter
