import Highlighter.Category

/-! The categories of a line's bytes, and the rules for writing over them. -/
namespace Highlighter

/-! ## Byte ranges with a category -/

/-- The bytes from `start` up to `stop`, without it, and what they are. -/
structure Span where
  start : Nat
  stop : Nat
  category : Category
deriving DecidableEq, Repr

namespace Span

def contains (span : Span) (pos : Nat) : Bool :=
  span.start ≤ pos && pos < span.stop

theorem contains_iff {span : Span} {pos : Nat} :
    span.contains pos = true ↔ span.start ≤ pos ∧ pos < span.stop := by
  simp [contains]

/-- The category of the first span that holds a byte. -/
def categoryAt? (spans : List Span) (pos : Nat) : Option Category :=
  (spans.find? fun span => span.contains pos).map Span.category

end Span

/-! ## Slots -/

/-- What a byte is known to be. -/
abbrev Slot := Option Category

/-- What happens to bytes that have a category already. -/
inductive Policy
  /-- Nothing is written if a byte of the range has a category. -/
  | skip
  /-- All bytes are written. -/
  | replace
  /-- Only bytes without a category are written. -/
  | keep
deriving DecidableEq, Repr

/-- The slots after writing a category over them, and whether a slot changed. -/
def Policy.fill (policy : Policy) (category : Category) (slots : List Slot) : List Slot × Bool :=
  match policy with
  | skip =>
    if slots.any Option.isSome then (slots, false)
    else (slots.map fun _ => some category, !slots.isEmpty)
  | replace => (slots.map fun _ => some category, slots.any fun slot => slot != some category)
  | keep =>
    (slots.map fun slot => some (slot.getD category), slots.any Option.isNone)

/-- What is known about the bytes of a line. -/
structure Markup where
  slots : List Slot
deriving DecidableEq, Repr

namespace Markup

/-- A line of `length` bytes about which nothing is known. -/
def blank (length : Nat) : Markup := ⟨.replicate length none⟩

def length (markup : Markup) : Nat := markup.slots.length

def categoryAt? (markup : Markup) (pos : Nat) : Option Category :=
  markup.slots[pos]?.join

/-- A byte of the range has a category. -/
def isCategorized (markup : Markup) (start stop : Nat) : Bool :=
  ((markup.slots.take stop).drop start).any Option.isSome

/-- Writes a category over the bytes from `start` up to `stop`, as far as the line has them; the
second part tells whether a byte changed. -/
def assign (markup : Markup) (start stop : Nat) (category : Category) (policy : Policy) :
    Markup × Bool :=
  if start < stop then
    let (filled, changed) := policy.fill category ((markup.slots.take stop).drop start)
    (⟨markup.slots.take start ++ filled ++ markup.slots.drop stop⟩, changed)
  else (markup, false)

/-- The markup with a category written over a range, whatever stood there. -/
def paint (markup : Markup) (start stop : Nat) (category : Category) : Markup :=
  (markup.assign start stop category .replace).1

/-- The markup with spans written over it in order, whatever stood there. -/
def paintAll (markup : Markup) (spans : List Span) : Markup :=
  spans.foldl (fun markup span => markup.paint span.start span.stop span.category) markup

/-- The markup of spans that are written one after the other. -/
def ofSpans (length : Nat) (spans : List Span) : Markup :=
  (blank length).paintAll spans

/-- The runs of equal categories among slots that begin at byte `pos`. -/
def runs (pos : Nat) : List Slot → List Span
  | [] => []
  | none :: slots => runs (pos + 1) slots
  | some category :: slots =>
    match runs (pos + 1) slots with
    | span :: spans =>
      if span.start = pos + 1 ∧ span.category = category then { span with start := pos } :: spans
      else ⟨pos, pos + 1, category⟩ :: span :: spans
    | [] => [⟨pos, pos + 1, category⟩]

/-- The longest runs of bytes with one category, from left to right. -/
def spans (markup : Markup) : List Span :=
  runs 0 markup.slots

end Markup

/-! ## Writes of categories, one after the other -/

/-- A category that is to be written over a byte range. -/
structure Assignment where
  start : Nat
  stop : Nat
  category : Category
  policy : Policy
deriving DecidableEq, Repr

namespace Markup

/-- Writes one category; the second part tells whether a byte changed. -/
def write (markup : Markup) (a : Assignment) : Markup × Bool :=
  markup.assign a.start a.stop a.category a.policy

/-- Writes categories in order and counts the writes that changed a byte. -/
def writeAll (markup : Markup) : List Assignment → Markup × Nat
  | [] => (markup, 0)
  | a :: as =>
    let (written, changed) := markup.write a
    let (last, count) := written.writeAll as
    (last, changed.toNat + count)

@[simp] theorem writeAll_nil (markup : Markup) : markup.writeAll [] = (markup, 0) := rfl

theorem writeAll_cons (markup : Markup) (a : Assignment) (as : List Assignment) :
    markup.writeAll (a :: as) =
      (((markup.write a).1.writeAll as).1,
        (markup.write a).2.toNat + ((markup.write a).1.writeAll as).2) := rfl

theorem writeAll_append (markup : Markup) (as bs : List Assignment) :
    markup.writeAll (as ++ bs) =
      (((markup.writeAll as).1.writeAll bs).1,
        (markup.writeAll as).2 + ((markup.writeAll as).1.writeAll bs).2) := by
  induction as generalizing markup with
  | nil => simp
  | cons a as ih => simp [writeAll_cons, ih, Nat.add_assoc]

end Markup

end Highlighter
