import Highlighter.Construct

/-! The identifiers of ECMAScript, and its comments, strings and regular expression literals. -/
namespace Highlighter.Script

open Pattern

/-! ## Pieces of patterns that the rules share -/

/-- A character that may begin an identifier: an ASCII letter, the underscore or the dollar sign. -/
def identifierStart : CharClass :=
  .union (.range 'A' 'Z') (.union (.range 'a' 'z') (.union (.one '_') (.one '$')))

/-- A character that may go on an identifier: a word character or the dollar sign. -/
def identifierRest : CharClass := .union .word (.one '$')

def identifier : Pattern := concat [char identifierStart, star (char identifierRest)]

/-- Identifiers joined by dots. -/
def dottedName : Pattern := concat [identifier, star (concat [text ".", identifier])]

def gap : Pattern := star (char .blank)

def space : Pattern := plus (char .blank)

/-- A keyword followed by white space, or neither. -/
def optionalWord (word : String) : Pattern := opt (concat [text word, space])

/-! ## Constructs -/

/-- A comment between a slash and a star on either side. -/
def blockComment : Construct where
  name := "block_comment"
  opener := text "/*"
  closer := text "*/"
  category := .comment
  id := 1

/-- A comment up to the end of the line. -/
def lineComment : Construct where
  name := "line_comment"
  opener := text "//"
  closer := textEnd
  category := .comment
  id := 2

/-- A string in double quotes. It ends with the line, unless the line's end is escaped. -/
def doubleString : Construct where
  name := "double_string"
  opener := text "\""
  closer := alt (text "\"") textEnd
  category := .string
  escape := some '\\'
  id := 3

/-- A string in single quotes. It ends with the line, unless the line's end is escaped. -/
def singleString : Construct where
  name := "single_string"
  opener := text "'"
  closer := alt (text "'") textEnd
  category := .string
  escape := some '\\'
  id := 4

/-- A template literal, which may go on over lines. -/
def templateString : Construct where
  name := "template_string"
  opener := text "\x60"
  closer := text "\x60"
  category := .string
  escape := some '\\'
  id := 5

/-- The characters after which an operand is expected. -/
def beforeOperand : List Char :=
  ['=', '(', ',', ':', ';', '!', '&', '|', '?', '\x7b', '\x7d', '[', '+', '-', '*', '%', '<', '>',
    '~', '^']

/-- A backslash and the character that it escapes, if there is one. -/
def escaped : Pattern := concat [text "\\", opt (char (.noneOf ['\n']))]

/-- A character class of a regular expression literal, closed or not. -/
def bracketed : Pattern :=
  concat [text "[", star (firstOf [escaped, char (.noneOf ['\\', ']'])]), opt (text "]")]

/-- The body of a regular expression literal up to the closing slash and its flags, or to the end. -/
def regexBody : Pattern :=
  concat [textStart, star (firstOf [escaped, bracketed, char (.noneOf ['\\', '/', '['])]),
    firstOf [
      concat [text "/", star (char (.union (.range 'A' 'Z') (.range 'a' 'z')))],
      textEnd]]

/-- A regular expression literal. A slash opens one only where an operand is expected. -/
def regexLiteral : Construct where
  name := "regex_literal"
  opener := concat [firstOf [textStart, char (.oneOf beforeOperand)], gap, group 1 (text "/")]
  closer := regexBody
  category := .string
  id := 6

/-- The constructs, in the order in which they are tried at one byte. -/
def constructs : List Construct :=
  [blockComment, lineComment, doubleString, singleString, templateString, regexLiteral]

end Highlighter.Script
