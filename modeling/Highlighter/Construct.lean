import Highlighter.Fault
import Highlighter.Markup
import Highlighter.Pattern.Match

/-! Comments, strings and the like: an opener, a body and a closer that may come lines later. -/
namespace Highlighter

/-- A construct that may go on over several lines. -/
structure Construct where
  name : String
  opener : Pattern
  closer : Pattern
  category : Category
  /-- An odd number of these in front of a closer takes its meaning away. -/
  escape : Option Char := none
  /-- The number under which a line state knows the construct. -/
  id : Nat
deriving DecidableEq, Repr

/-- Where a line ends: in plain script, 0, or in the construct with this number. -/
structure LineState where
  construct : Nat := 0
deriving DecidableEq, Repr, Inhabited

namespace LineState

def normal : LineState := {}

def isNormal (state : LineState) : Bool := state.construct == 0

end LineState

namespace Construct

/-- A construct whose patterns are given in their written form. -/
def parse (name opener closer : String) (category : Category) (id : Nat) (escape : Option Char) :
    Except Fault Construct :=
  match Pattern.parse opener.toList, Pattern.parse closer.toList with
  | .ok opener, .ok closer => .ok ⟨name, opener, closer, category, escape, id⟩
  | .error cause, _ | _, .error cause => .error (.invalidPattern name cause)

/-- The byte range of the first opener at byte `pos` or after it, short of the end. If the pattern
has a group 1, the opener is what it holds, and the rest of the match is context. -/
def findOpener (construct : Construct) (text : Text) (pos : Nat) : Option (Nat × Nat) :=
  if pos < text.byteLength then
    ((Cursor.seek text pos).bind construct.opener.search).bind fun m =>
      (m.group? 1).or (m.group? 0)
  else none

/-- The end of the first closer at byte `pos` or after it that is not escaped; `fuel` is at least
the number of bytes from there on and one more. -/
def closerFrom (closer : Pattern) (escape : Char) (text : Text) : (fuel : Nat) → Nat → Option Nat
  | 0, _ => none
  | fuel + 1, pos =>
    match (Cursor.seek text pos).bind closer.search with
    | none => none
    | some m =>
      let start := m.first.offset
      let stop := m.last.offset
      if (m.first.before.takeWhile (· == escape)).length % 2 = 0 then some stop
      else closerFrom closer escape text fuel (if start < stop then stop else stop + 1)

/-- The end of the closer in a text of which the construct's body is the beginning. -/
def closerIn (construct : Construct) (text : Text) : Option Nat :=
  match construct.escape with
  | none => (construct.closer.search (.start text)).map fun m => m.last.offset
  | some escape => closerFrom construct.closer escape text (text.byteLength + 1) 0

/-- The end of the closer for a body that begins at byte `pos`. The closer does not see what stands
before the body. -/
def findCloser (construct : Construct) (text : Text) (pos : Nat) : Option Nat :=
  (text.splitAt? pos).bind fun parts => (construct.closerIn parts.2).map (pos + ·)

end Construct

/-! ## The constructs of a line from left to right -/

/-- A construct that opens in a line, and the byte range of its opener. -/
structure Opening where
  start : Nat
  stop : Nat
  construct : Construct

namespace Construct

/-- The first opener at byte `pos` or after it; of two at one byte, that of the construct listed
first. -/
def firstOpening (text : Text) (pos : Nat) : List Construct → Option Opening
  | [] => none
  | construct :: constructs =>
    match construct.findOpener text pos, firstOpening text pos constructs with
    | none, later => later
    | some (start, stop), none => some ⟨start, stop, construct⟩
    | some (start, stop), some later =>
      if later.start < start then some later else some ⟨start, stop, construct⟩

/-- The constructs of a line from byte `pos` on, and the state at its end; `fuel` is at least the
number of bytes from there on. A construct of no length is passed by one byte. -/
def regionsFrom (constructs : List Construct) (text : Text) :
    (fuel : Nat) → Nat → List Span × LineState
  | 0, _ => ([], .normal)
  | fuel + 1, pos =>
    if pos < text.byteLength then
      match firstOpening text pos constructs with
      | none => ([], .normal)
      | some opening =>
        let category := opening.construct.category
        match opening.construct.findCloser text opening.stop with
        | none => ([⟨opening.start, text.byteLength, category⟩], ⟨opening.construct.id⟩)
        | some stop =>
          let (spans, state) := regionsFrom constructs text fuel (max stop (opening.start + 1))
          (⟨opening.start, stop, category⟩ :: spans, state)
    else ([], .normal)

/-- The construct in which the line before ended. A number that none has stands for none. -/
def continued? (constructs : List Construct) (state : LineState) : Option Construct :=
  if state.isNormal then none
  else constructs.find? fun construct => construct.id == state.construct

/-- The constructs of a line after a line that ended in `state`, and the state at its end. -/
def regions (constructs : List Construct) (text : Text) (state : LineState) :
    List Span × LineState :=
  match continued? constructs state with
  | none => regionsFrom constructs text text.byteLength 0
  | some construct =>
    match construct.findCloser text 0 with
    | none => ([⟨0, text.byteLength, construct.category⟩], state)
    | some stop =>
      let (spans, last) := regionsFrom constructs text text.byteLength stop
      (⟨0, stop, construct.category⟩ :: spans, last)

end Construct

/-- Marks the constructs of a line; the second part is the state at its end. -/
def Markup.scan (markup : Markup) (constructs : List Construct) (text : Text) (state : LineState) :
    Markup × LineState :=
  let (spans, last) := Construct.regions constructs text state
  (markup.paintAll spans, last)

end Highlighter
