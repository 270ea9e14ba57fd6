import Highlighter.Text.Basic

/-! Places in a text: between two characters, with both sides at hand. -/
namespace Highlighter

/-- A place in a text: the characters before it, nearest first, those after it, and their number. -/
structure Cursor where
  before : Text
  rest : Text
  ahead : Nat := rest.length
  ahead_eq : ahead = rest.length := by rfl
deriving DecidableEq, Repr

namespace Cursor

/-- The place between two texts, of which the first one is given backwards. -/
def between (before rest : Text) : Cursor := { before, rest }

/-- The place before the first character. -/
def start (text : Text) : Cursor := between [] text

/-- The text that the place is in. -/
def text (c : Cursor) : Text := c.before.reverse ++ c.rest

/-- The byte that the place stands at. -/
def offset (c : Cursor) : Nat := Text.byteLength c.before

/-- The next character, and the place after it. -/
def next? (c : Cursor) : Option (Char × Cursor) :=
  match h : c.rest with
  | [] => none
  | d :: rest => some (d, ⟨d :: c.before, rest, c.ahead - 1, by rw [c.ahead_eq, h]; rfl⟩)

/-- The first place `n` bytes or more after `before`. -/
def skip (before : Text) : Text → Nat → Option Cursor
  | rest, 0 => some (between before rest)
  | [], _ + 1 => none
  | d :: rest, n + 1 => skip (d :: before) rest (n + 1 - d.utf8Size)

/-- The first place at byte `n` or after it; `none` past the end. A byte inside a character
stands for the end of that character. -/
def seek (text : Text) (n : Nat) : Option Cursor := skip [] text n

/-- A place is known by its two sides. -/
theorem ext_sides {c d : Cursor} (hb : c.before = d.before) (hr : c.rest = d.rest) : c = d := by
  rcases c with ⟨b, r, a, ha⟩
  rcases d with ⟨b', r', a', ha'⟩
  simp only at hb hr
  subst hb hr
  simp [ha, ha']

theorem between_sides (c : Cursor) : between c.before c.rest = c := ext_sides rfl rfl

@[simp] theorem text_start (text : Text) : (start text).text = text := rfl

@[simp] theorem offset_start (text : Text) : (start text).offset = 0 := rfl

/-- There is a next character just where the text goes on, and the place after it is one further. -/
theorem next?_eq_some_iff {c d : Cursor} {x : Char} :
    c.next? = some (x, d) ↔ ∃ rest, c.rest = x :: rest ∧ d = between (x :: c.before) rest := by
  unfold next?
  split
  · simp_all
  · rename_i y rest h
    constructor
    · intro heq
      simp only [Option.some.injEq, Prod.mk.injEq] at heq
      obtain ⟨rfl, rfl⟩ := heq
      exact ⟨rest, h, ext_sides rfl rfl⟩
    · rintro ⟨rest', h', rfl⟩
      obtain ⟨rfl, rfl⟩ : y = x ∧ rest = rest' := by simpa [h] using h'
      simp only [Option.some.injEq, Prod.mk.injEq, true_and]
      exact ext_sides rfl rfl

theorem next?_eq_none_iff {c : Cursor} : c.next? = none ↔ c.rest = [] := by
  unfold next?
  split <;> simp_all

theorem text_of_next? {c d : Cursor} {x : Char} (h : c.next? = some (x, d)) : d.text = c.text := by
  obtain ⟨rest, hr, rfl⟩ := next?_eq_some_iff.1 h
  simp [text, between, hr]

theorem ahead_of_next? {c d : Cursor} {x : Char} (h : c.next? = some (x, d)) :
    d.ahead + 1 = c.ahead := by
  obtain ⟨rest, hr, rfl⟩ := next?_eq_some_iff.1 h
  simp [between, c.ahead_eq, hr]

theorem text_of_skip {before rest : Text} {n : Nat} {c : Cursor} (h : skip before rest n = some c) :
    c.text = before.reverse ++ rest := by
  induction rest generalizing before n with
  | nil => cases n <;> simp [skip] at h; subst h; rfl
  | cons d rest ih =>
    cases n with
    | zero => simp [skip] at h; subst h; rfl
    | succ n =>
      rw [ih (by simpa [skip] using h), List.reverse_cons, List.append_assoc, List.singleton_append]

/-- Seeking stays in the text. -/
theorem text_of_seek {text : Text} {n : Nat} {c : Cursor} (h : seek text n = some c) :
    c.text = text := by
  simpa using text_of_skip h

end Cursor

end Highlighter
