import Highlighter.Engine
import Highlighter.Script.Lexical
import Highlighter.Script.Vocabulary

/-! ECMAScript, in three levels of detail that build on each other. -/
namespace Highlighter.Script

open Pattern

/-- How much is highlighted. -/
inductive Level
  /-- Function headings and imports. -/
  | one
  /-- Reserved words, primitive types and constants as well. -/
  | two
  /-- Class declarations of well-known frameworks and operands of `new` as well. -/
  | three
deriving DecidableEq, Repr

def Level.ofNumber? : Nat → Option Level
  | 1 => some one
  | 2 => some two
  | 3 => some three
  | _ => none

def Level.number : Level → Nat
  | one => 1
  | two => 2
  | three => 3

def headings : RuleSet where
  rules := [
    { name := "import"
      pattern := wholeWord ["import"]
      highlights := [⟨1, .keyword, .skip, false⟩] },
    { name := "function_heading"
      pattern := concat [textStart, gap, optionalWord "export", optionalWord "async",
        text "function", gap, opt (text "*"), gap, group 1 identifier]
      highlights := [⟨1, .functionName, .skip, false⟩] },
    { name := "function_property"
      pattern := concat [textStart, gap, group 1 identifier, gap, text ":", gap, text "function",
        wordBoundary]
      highlights := [⟨1, .functionName, .skip, false⟩] },
    { name := "function_assignment"
      pattern := concat [textStart, gap,
        opt (concat [firstOf [text "var", text "let", text "const"], space]),
        group 1 dottedName, gap, text "=", gap, text "function", wordBoundary]
      highlights := [⟨1, .functionName, .skip, false⟩] }]

def reserved : RuleSet where
  rules := [
    { name := "keyword"
      pattern := wholeWord keywords
      highlights := [⟨1, .keyword, .skip, false⟩] },
    { name := "basic_type"
      pattern := wholeWord basicTypes
      highlights := [⟨1, .typeName, .skip, false⟩] },
    { name := "constant"
      pattern := wholeWord constants
      highlights := [⟨1, .constant, .skip, false⟩] },
    { name := "for_each"
      pattern := concat [wordBoundary, text "for", space, group 1 (text "each"), wordBoundary]
      highlights := [⟨1, .keyword, .skip, false⟩] }]

/-- A character of a class name that a framework takes as a string. -/
def classNameChar : CharClass := .union .word (.oneOf ['$', '.'])

def quote : Pattern := char (.oneOf ['"', '\''])

def frameworks : RuleSet where
  rules := [
    { name := "prototype_class"
      pattern := concat [group 1 dottedName, gap, text "=", gap, text "Class.create", wordBoundary]
      highlights := [⟨1, .typeName, .skip, false⟩] },
    { name := "dojo_declare"
      pattern := concat [wordBoundary, text "dojo.declare", gap, text "(", gap, quote,
        group 1 (plus (char classNameChar)), quote]
      highlights := [⟨1, .typeName, .replace, false⟩] },
    { name := "ext_define"
      pattern := concat [wordBoundary, text "Ext.", firstOf [text "define", text "extend"], gap,
        text "(", gap, opt quote, group 1 (plus (char classNameChar))]
      highlights := [⟨1, .typeName, .replace, false⟩] },
    { name := "new_class"
      pattern := concat [wordBoundary, text "new", space, group 1 dottedName]
      highlights := [⟨1, .typeName, .skip, false⟩] }]

/-- The rules that a level adds to those below it. -/
def Level.added : Level → RuleSet
  | one => headings
  | two => reserved
  | three => frameworks

/-- The rules of a level and of those below it. -/
def Level.rules : Level → RuleSet
  | one => headings
  | two => headings ++ reserved
  | three => headings ++ reserved ++ frameworks

/-- The highlighter for ECMAScript at a level. -/
def ecmaScript (level : Level) : Engine where
  name := "ECMAScript"
  constructs := constructs
  rules := level.rules

end Highlighter.Script
