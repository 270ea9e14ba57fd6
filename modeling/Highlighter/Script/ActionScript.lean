import Highlighter.Script.EcmaScript

/-!
ActionScript: the constructs and the first two levels of ECMAScript, and rules of its own.

Every named function whose parameters are followed by a brace gets a warning, constructors
included. Any name after a single colon counts as a type, so the last part of a conditional
expression does, too.
-/
namespace Highlighter.Script

open Pattern

/-- A type: a star, or a dotted name that may have a type in angle brackets. -/
def typeExpression : Pattern :=
  firstOf [text "*",
    concat [dottedName,
      opt (concat [text ".<", plus (char (.union .word (.oneOf ['$', '.', '*']))), text ">"])]]

/-- Parameters in parentheses. -/
def parameters : Pattern := concat [text "(", star (char (.noneOf [')'])), text ")"]

/-- The rules that ActionScript adds, in order. -/
def catalog : RuleSet where
  rules := [
    -- not the name of a member, which follows a dot
    { name := "as_keyword"
      pattern := concat [
        firstOf [textStart, char (.compl (.union (.one '.') (.union .word (.one '$'))))],
        wholeWord addedKeywords]
      highlights := [⟨1, .keyword, .skip, false⟩] },
    { name := "rest_parameter"
      pattern := group 1 (text "...")
      highlights := [⟨1, .keyword, .skip, false⟩] },
    -- the type in angle brackets may have a category, so only the rest is filled
    { name := "type_annotation"
      pattern := concat [firstOf [textStart, char (.noneOf [':'])], text ":", gap,
        group 1 typeExpression]
      highlights := [⟨1, .typeName, .keep, false⟩] },
    { name := "type_operand"
      pattern := concat [wordBoundary,
        firstOf [text "as", text "is", text "instanceof", text "new"], space, group 1 dottedName]
      highlights := [⟨1, .typeName, .skip, false⟩] },
    -- an accessor word may pass for the function's name, and a return type may be a keyword
    { name := "function_declaration"
      pattern := concat [wordBoundary, group 1 (text "function"), space,
        opt (concat [group 2 (firstOf [text "get", text "set"]), space]),
        group 3 identifier, gap, parameters,
        opt (concat [gap, text ":", gap, group 4 typeExpression])]
      highlights := [⟨1, .keyword, .skip, false⟩, ⟨2, .keyword, .replace, true⟩,
        ⟨3, .functionName, .skip, false⟩, ⟨4, .typeName, .replace, true⟩] },
    { name := "missing_return_type"
      pattern := concat [wordBoundary, text "function", space,
        opt (concat [firstOf [text "get", text "set"], space]), identifier, gap, parameters, gap,
        group 1 (text "\x7b")]
      highlights := [⟨1, .warning, .skip, false⟩] },
    { name := "variable_declaration"
      pattern := concat [wordBoundary, group 1 (firstOf [text "var", text "const"]), space,
        group 2 identifier]
      highlights := [⟨1, .keyword, .skip, false⟩, ⟨2, .variableName, .skip, false⟩] },
    { name := "builtin_method"
      pattern := concat [text ".", wholeWord builtinMethods]
      highlights := [⟨1, .builtin, .skip, false⟩] }]

/-- The level of ECMAScript whose rules come before the catalog. -/
def baseLevel : Level := .two

/-- The highlighter for ActionScript on top of one for ECMAScript: it takes over the constructs, and
the rules up to the base level, however much is highlighted below. -/
def actionScriptOn (base : Level) : Engine where
  name := "ActionScript"
  constructs := (ecmaScript base).constructs
  rules := baseLevel.rules ++ catalog

/-- The highlighter for ActionScript. -/
def actionScript : Engine := actionScriptOn .three

end Highlighter.Script
