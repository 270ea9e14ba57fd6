import Highlighter.Markup
import Highlighter.Script.Lexical

/-!
A lexer for the constructs of scripts that passes over a line once, character by character, with
the next character in view.
-/
namespace Highlighter.Script

/-- What the lexer is in the middle of. -/
inductive Mode
  /-- Plain script, where an operand is expected or not. -/
  | code (operand : Bool)
  /-- Between the two characters that open a block comment. -/
  | blockOpening
  | block
  /-- Between the two characters that close a block comment. -/
  | blockClosing
  | line
  /-- A string between two delimiters, after a backslash that escapes what follows or not. -/
  | quoted (delimiter : Char) (escaped : Bool)
  /-- A regular expression, in one of its character classes or not. -/
  | regex (inClass escaped : Bool)
  /-- After the closing slash of a regular expression. -/
  | flags
deriving DecidableEq, Repr

namespace Mode

/-- Whether an operand is expected after a character of plain script. -/
def operandAfter (operand : Bool) (x : Char) : Bool :=
  beforeOperand.contains x || (operand && Text.isBlank x)

def isFlag (x : Char) : Bool := ('A' ≤ x && x ≤ 'Z') || ('a' ≤ x && x ≤ 'z')

/-- A character of plain script: what it is, and the mode after it. -/
def stepCode (operand : Bool) (x : Char) (next : Option Char) : Slot × Mode :=
  if x = '/' ∧ next = some '*' then (some .comment, blockOpening)
  else if x = '/' ∧ next = some '/' then (some .comment, line)
  else if x = '"' ∨ x = '\'' ∨ x = '\x60' then (some .string, quoted x false)
  else if x = '/' ∧ operand then (some .string, regex false false)
  else (none, code (operandAfter operand x))

def stepQuoted (delimiter : Char) (escaped : Bool) (x : Char) : Mode :=
  if escaped then quoted delimiter false
  else if x = '\\' then quoted delimiter true
  else if x = delimiter then code false
  else quoted delimiter false

def stepRegex (inClass escaped : Bool) (x : Char) : Mode :=
  if escaped then regex inClass false
  else if x = '\\' then regex inClass true
  else if inClass then regex (x != ']') false
  else if x = '/' then flags
  else regex (x == '[') false

/-- One character, with the next one in view: what it is, and the mode after it. -/
def step (mode : Mode) (x : Char) (next : Option Char) : Slot × Mode :=
  match mode with
  | code operand => stepCode operand x next
  | blockOpening => (some .comment, block)
  | block => (some .comment, if x = '*' ∧ next = some '/' then blockClosing else block)
  | blockClosing => (some .comment, code false)
  | line => (some .comment, line)
  | quoted delimiter escaped => (some .string, stepQuoted delimiter escaped x)
  | regex inClass escaped => (some .string, stepRegex inClass escaped x)
  | flags => if isFlag x then (some .string, flags) else stepCode false x next

def start (state : LineState) : Mode :=
  match state.construct with
  | 1 => block
  | 2 => line
  | 3 => quoted '"' false
  | 4 => quoted '\'' false
  | 5 => quoted '\x60' false
  | 6 => regex false false
  | _ => code true

/-- The state of a line that ends in the mode. A string in quotes goes on only if the line's end is
escaped. -/
def final : Mode → LineState
  | blockOpening | block | blockClosing => ⟨1⟩
  | quoted '\x60' _ => ⟨5⟩
  | quoted '"' true => ⟨3⟩
  | quoted '\'' true => ⟨4⟩
  | _ => .normal

/-- Runs the lexer over a text: what its bytes are, and the state at its end. -/
def lex (mode : Mode) : Text → List Slot × LineState
  | [] => ([], mode.final)
  | x :: rest =>
    let (slot, after) := mode.step x rest.head?
    let (slots, state) := lex after rest
    (.replicate x.utf8Size slot ++ slots, state)

variable {mode m m' : Mode} {slot : Slot} {s t rest : Text} {x : Char}

theorem lex_cons (mode : Mode) (x : Char) (rest : Text) :
    mode.lex (x :: rest) =
      (.replicate x.utf8Size (mode.step x rest.head?).1 ++
          ((mode.step x rest.head?).2.lex rest).1,
        ((mode.step x rest.head?).2.lex rest).2) := rfl

/-- Passing over `s` in front of `rest`, the lexer gives all bytes one slot and ends in the mode `m`. -/
def Passes (mode : Mode) (s : Text) (slot : Slot) (m : Mode) (rest : Text) : Prop :=
  mode.lex (s ++ rest) = (.replicate s.byteLength slot ++ (m.lex rest).1, (m.lex rest).2)

namespace Passes

theorem nil : mode.Passes [] slot mode rest := by
  simp [Passes]

theorem cons (hstep : mode.step x (s ++ rest).head? = (slot, m)) (h : m.Passes s slot m' rest) :
    mode.Passes (x :: s) slot m' rest := by
  rw [Passes] at h ⊢
  rw [List.cons_append, lex_cons, hstep, h]
  simp [← List.replicate_append_replicate]

theorem append (h : mode.Passes s slot m (t ++ rest)) (h' : m.Passes t slot m' rest) :
    mode.Passes (s ++ t) slot m' rest := by
  rw [Passes] at h h' ⊢
  rw [List.append_assoc, h, h']
  simp [← List.replicate_append_replicate]

/-- The mode at the end may be exchanged for one that reads the rest in the same way. -/
theorem congr (h : mode.Passes s slot m rest) (hm : m.lex rest = m'.lex rest) :
    mode.Passes s slot m' rest := by
  rw [Passes] at h ⊢
  rw [h, hm]

end Passes

end Mode

end Highlighter.Script
