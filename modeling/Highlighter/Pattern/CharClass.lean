import Highlighter.Text.Case

/-! Sets of characters, as a pattern describes them. -/
namespace Highlighter

/-- A set of characters. -/
inductive CharClass
  | any
  | one (c : Char)
  | range (first last : Char)
  | word
  | digit
  | blank
  | union (a b : CharClass)
  | inter (a b : CharClass)
  | compl (a : CharClass)
  /-- The characters that differ from a member at most in case. -/
  | folded (a : CharClass)
deriving DecidableEq, Repr

namespace CharClass

def contains : CharClass → Char → Bool
  | any, _ => true
  | one d, c => c == d
  | range first last, c => first ≤ c && c ≤ last
  | word, c => Text.isWord c
  | digit, c => Text.isDigit c
  | blank, c => Text.isBlank c
  | union a b, c => a.contains c || b.contains c
  | inter a b, c => a.contains c && b.contains c
  | compl a, c => !a.contains c
  | folded a, c => (Text.caseVariants c).any a.contains

def empty : CharClass := compl any

def diff (a b : CharClass) : CharClass := inter a (compl b)

/-- The characters in exactly one of two sets. -/
def symmDiff (a b : CharClass) : CharClass := union (diff a b) (diff b a)

def oneOf : List Char → CharClass
  | [] => empty
  | [c] => one c
  | c :: cs => union (one c) (oneOf cs)

def noneOf (cs : List Char) : CharClass := compl (oneOf cs)

theorem contains_empty (c : Char) : empty.contains c = false := rfl

theorem contains_oneOf {cs : List Char} {c : Char} : (oneOf cs).contains c = true ↔ c ∈ cs := by
  induction cs with
  | nil => simp [oneOf, contains_empty]
  | cons d cs ih =>
    cases cs with
    | nil => simp [oneOf, contains]
    | cons e cs => simp only [oneOf, contains, Bool.or_eq_true, ih]; simp

theorem contains_noneOf {cs : List Char} {c : Char} : (noneOf cs).contains c = true ↔ c ∉ cs := by
  have h : (oneOf cs).contains c = true ↔ c ∈ cs := contains_oneOf
  simp [noneOf, contains, ← h]

end CharClass

end Highlighter
