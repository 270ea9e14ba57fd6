import Highlighter.Construct
import Highlighter.Rule

/-! Highlighting of lines: first the constructs, then the rules over what they left. -/
namespace Highlighter

/-- A highlighter for one kind of script. -/
structure Engine where
  name : String
  /-- Comments and strings; of two that open at one byte, the first one counts. -/
  constructs : List Construct := []
  rules : RuleSet := {}
deriving DecidableEq, Repr

/-- The spans of a line and the state at its end. -/
structure HighlightedLine where
  spans : List Span
  state : LineState
deriving DecidableEq, Repr

namespace Engine

/-- Runs the rules over a line that carries some markup; the second part counts the changes. -/
def fontify (engine : Engine) (text : Text) (markup : Markup) : Markup × Nat :=
  engine.rules.apply text markup

/-- Highlights one line after a line that ended in `state`. -/
def highlightLine (engine : Engine) (text : Text) (state : LineState) : HighlightedLine :=
  let (scanned, last) := (Markup.blank text.byteLength).scan engine.constructs text state
  ⟨(engine.fontify text scanned).1.spans, last⟩

/-- Highlights lines that follow a line that ended in `state`. -/
def highlightFrom (engine : Engine) (state : LineState) : List Text → List HighlightedLine
  | [] => []
  | text :: texts =>
    let line := engine.highlightLine text state
    line :: engine.highlightFrom line.state texts

/-- Highlights the lines of a whole script. -/
def highlightLines (engine : Engine) (lines : List Text) : List HighlightedLine :=
  engine.highlightFrom .normal lines

end Engine

end Highlighter
