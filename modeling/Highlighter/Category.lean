import Highlighter.Style

/-! What a piece of a script is, and the style of each kind. -/
namespace Highlighter

/-- The kinds of text that a highlighter tells apart. -/
inductive Category
  | comment
  | string
  | keyword
  | typeName
  | functionName
  | variableName
  | builtin
  | constant
  | warning
  | plain
deriving DecidableEq, Repr, Inhabited

namespace Category

def all : List Category :=
  [comment, string, keyword, typeName, functionName, variableName, builtin, constant, warning, plain]

def name : Category → String
  | comment => "Comment"
  | string => "String"
  | keyword => "Keyword"
  | typeName => "Type"
  | functionName => "Function"
  | variableName => "Variable"
  | builtin => "Builtin"
  | constant => "Constant"
  | warning => "Warning"
  | plain => "Default"

/-- The category with a name, whatever its ASCII case. -/
def ofName? (name : Text) : Option Category :=
  all.find? fun category => category.name.toList.map Char.toLower == name.map Char.toLower

/-- How a category is shown if nothing else is asked for. -/
def defaultStyle : Category → Style
  | comment => { fg := .brightBlack, italic := true }
  | string => { fg := .green }
  | keyword => { fg := .magenta, bold := true }
  | typeName => { fg := .yellow }
  | functionName => { fg := .blue }
  | variableName => { fg := .brightYellow }
  | builtin => { fg := .cyan }
  | constant => { fg := .brightRed }
  | warning => { fg := .brightWhite, bg := .red, bold := true }
  | plain => {}

theorem mem_all (category : Category) : category ∈ all := by
  cases category <;> decide

end Category

/-! ## Themes -/

/-- Styles that replace default ones; the first one of a category counts. -/
structure Theme where
  overrides : List (Category × Style) := []
deriving DecidableEq, Repr

namespace Theme

def set (theme : Theme) (category : Category) (style : Style) : Theme :=
  ⟨(category, style) :: theme.overrides⟩

def style (theme : Theme) (category : Category) : Style :=
  (theme.overrides.lookup category).getD category.defaultStyle

@[simp] theorem style_empty (category : Category) :
    ({} : Theme).style category = category.defaultStyle := rfl

@[simp] theorem style_set_self (theme : Theme) (category : Category) (style : Style) :
    (theme.set category style).style category = style := by
  simp [set, Theme.style]

theorem style_set_of_ne (theme : Theme) {a b : Category} (h : b ≠ a) (style : Style) :
    (theme.set a style).style b = theme.style b := by
  simp [set, Theme.style, List.lookup_cons, beq_eq_false_iff_ne.2 h]

end Theme

end Highlighter
