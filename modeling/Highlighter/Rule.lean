import Highlighter.Fault
import Highlighter.Markup
import Highlighter.Pattern.Match

/-! Rules that put categories on the groups of every match of a pattern. -/
namespace Highlighter

/-- The category for one group of a match. -/
structure Highlight where
  group : Nat
  category : Category
  policy : Policy := .skip
  /-- The group may be absent from a match as a matter of course. -/
  lax : Bool := false
deriving DecidableEq, Repr

/-- A pattern and what its groups are. -/
structure Rule where
  name : String
  pattern : Pattern
  highlights : List Highlight
deriving DecidableEq, Repr

namespace Rule

/-- A rule whose pattern is given in its written form. -/
def parse (name source : String) (highlights : List Highlight) : Except Fault Rule :=
  match Pattern.parse source.toList with
  | .ok pattern => .ok ⟨name, pattern, highlights⟩
  | .error cause => .error (.invalidPattern name cause)

def groupCount (rule : Rule) : Nat := rule.pattern.groupCount

/-- The first highlight of a group that the pattern does not have. -/
def badHighlight? (rule : Rule) : Option Highlight :=
  rule.highlights.find? fun h => rule.groupCount < h.group

def isValid (rule : Rule) : Bool := rule.badHighlight?.isNone

/-- What a match asks to be written. A group that took no part in it asks for nothing. -/
def assignmentsOf (rule : Rule) (m : Match) : List Assignment :=
  rule.highlights.filterMap fun h =>
    (m.group? h.group).map fun range => ⟨range.1, range.2, h.category, h.policy⟩

/-- What the rule asks to be written on a line: match after match, highlight after highlight. -/
def assignments (rule : Rule) (text : Text) : List Assignment :=
  (rule.pattern.findAll text).flatMap rule.assignmentsOf

/-- Runs the rule on a line; the second part counts the writes that changed a byte. -/
def apply (rule : Rule) (text : Text) (markup : Markup) : Markup × Nat :=
  markup.writeAll (rule.assignments text)

end Rule

/-! ## Rules in the order in which they run -/

/-- Rules that run one after the other; a later one wins only where its policies let it. -/
structure RuleSet where
  rules : List Rule := []
deriving DecidableEq, Repr

namespace RuleSet

/-- The set with one more rule, which has to be valid. -/
def push (set : RuleSet) (rule : Rule) : Except Fault RuleSet :=
  match rule.badHighlight? with
  | some bad => .error (.noSuchGroup rule.name bad.group rule.groupCount)
  | none => .ok ⟨set.rules ++ [rule]⟩

def append (base additional : RuleSet) : RuleSet := ⟨base.rules ++ additional.rules⟩

instance : Append RuleSet := ⟨append⟩

def names (set : RuleSet) : List String := set.rules.map Rule.name

def size (set : RuleSet) : Nat := set.rules.length

def get? (set : RuleSet) (name : String) : Option Rule :=
  set.rules.find? fun rule => rule.name == name

/-- What the rules ask to be written on a line. -/
def assignments (set : RuleSet) (text : Text) : List Assignment :=
  set.rules.flatMap fun rule => rule.assignments text

/-- Runs the rules on a line; the second part counts the writes that changed a byte. -/
def apply (set : RuleSet) (text : Text) (markup : Markup) : Markup × Nat :=
  markup.writeAll (set.assignments text)

@[simp] theorem rules_append (a b : RuleSet) : (a ++ b).rules = a.rules ++ b.rules := rfl

theorem assignments_append (a b : RuleSet) (text : Text) :
    (a ++ b).assignments text = a.assignments text ++ b.assignments text := by
  simp [assignments]

end RuleSet

end Highlighter
