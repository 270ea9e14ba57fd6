import Highlighter.CommandLine.Run
import Highlighter.Proofs.Output
import Highlighter.Proofs.Registry.Independence
import Highlighter.Proofs.Registry.Replacement
import Highlighter.Proofs.Text.Boundary

/-!
The files of a command line. Each of them is shown as if it were the only one, up to the first that
cannot be read or has no mode; what one of them leaves open or leaves behind is not seen in the next.
-/
namespace Highlighter

/-! ## Lines -/

namespace Text

end Text

/-! ## Sources -/

namespace Sources

/-- What is read from a file, or from standard input for a dash. -/
def content (sources : Sources) (file : String) : Except ReadFault Text :=
  if file = "-" then sources.input else sources.file file

/-- What is left after files have been read. Standard input is used up by the first dash. -/
def after (sources : Sources) (files : List String) : Sources :=
  if "-" ∈ files then { sources with input := .ok [] } else sources

end Sources

namespace CommandLine

def written (report : Bool) (lines : List Text) (spans : List (List Span)) : Text :=
  if report then
    (lines.zip spans).zipIdx.flatMap fun ((line, spans), number) =>
      (Report.entries number line spans).flatMap fun entry => entry.toList ++ ['\n']
  else lines.flatMap fun line => line ++ ['\n']

/-- One text after the other, up to the first failure. -/
def join : List (Except Fault Text) → Outcome
  | [] => {}
  | .error fault :: _ => { failure := some fault }
  | .ok text :: rest => (join rest).after text

/-! ## Modes and lines -/

section

variable {registry configured : Registry}

end

/-! ## What is written -/

end CommandLine

end Highlighter
