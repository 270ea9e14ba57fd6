import Highlighter.Output

/-!
A terminal. It keeps the style in force, changes it as control sequences ask, and shows every other
character in it. A styled text is shown in its style and leaves the default one behind.
-/
namespace Highlighter.Terminal

/-! ## Reading -/

/-- The colours of the palette in the order of their numbers. -/
def palette : List Color :=
  [.black, .red, .green, .yellow, .blue, .magenta, .cyan, .white, .brightBlack, .brightRed,
    .brightGreen, .brightYellow, .brightBlue, .brightMagenta, .brightCyan, .brightWhite]

/-- The numbers between semicolons; `read` is what the digits so far come to. -/
def numbers (read : Nat) : Text → List Nat
  | [] => [read]
  | c :: cs =>
    if c = ';' then read :: numbers 0 cs else numbers (10 * read + (c.toNat - '0'.toNat)) cs

/-- The style after a request with these numbers. What a request does not know changes nothing. -/
def select (style : Style) : List Nat → Style
  | 38 :: 5 :: n :: ns => select { style with fg := palette[n]?.getD style.fg } ns
  | 48 :: 5 :: n :: ns => select { style with bg := palette[n]?.getD style.bg } ns
  | 0 :: ns => select {} ns
  | 1 :: ns => select { style with bold := true } ns
  | 3 :: ns => select { style with italic := true } ns
  | 4 :: ns => select { style with underline := true } ns
  | 7 :: ns => select { style with reverse := true } ns
  | _ :: ns => select style ns
  | [] => style

/-- The style after a control sequence, which is given without the escape and by its last letter. -/
def obey (style : Style) (body : Text) (final : Char) : Style :=
  match body with
  | '[' :: parameters => if final = 'm' then select style (numbers 0 parameters) else style
  | _ => style

/-- What is shown of a text, each character in the style in force, and the style at the end. `pending`
holds the control sequence that is being read, last character first. -/
def display : (style : Style) → (pending : Option Text) → Text → List (Char × Style) × Style
  | style, _, [] => ([], style)
  | style, none, c :: cs =>
    if c = '\x1b' then display style (some []) cs
    else ((c, style) :: (display style none cs).1, (display style none cs).2)
  | style, some body, c :: cs =>
    if c.isAlpha then display (obey style body.reverse c) none cs
    else display style (some (c :: body)) cs

/-- The text without control sequences, each of which goes from an escape to the next letter;
`inside` tells whether one is being read. -/
def withoutEscapes : (inside : Bool) → Text → Text
  | _, [] => []
  | false, c :: cs => if c = '\x1b' then withoutEscapes true cs else c :: withoutEscapes false cs
  | true, c :: cs => withoutEscapes (!c.isAlpha) cs

/-- What is shown is the text without control sequences. -/
theorem map_fst_display (style : Style) (pending : Option Text) (text : Text) :
    (display style pending text).1.map Prod.fst = withoutEscapes pending.isSome text := by
  induction text generalizing style pending with
  | nil => simp [display, withoutEscapes]
  | cons c text ih =>
      cases pending with
      | none =>
          by_cases hc : c = '\x1b'
          · simp [display, withoutEscapes, hc, ih]
          · simp [display, withoutEscapes, hc, ih]
      | some body =>
          by_cases hc : c.isAlpha
          · simp [display, withoutEscapes, hc, ih]
          · simp [display, withoutEscapes, hc, ih]

/-! ## What is written -/

variable {style : Style} {rest : Text}

theorem display_plain {text : Text} (h : '\x1b' ∉ text) :
    display style none (text ++ rest) =
      (text.map (fun c => (c, style)) ++ (display style none rest).1, (display style none rest).2) := by
  induction text with
  | nil => rfl
  | cons c text ih =>
      rw [List.mem_cons, not_or] at h
      rw [List.cons_append, display, if_neg (Ne.symm h.1), ih h.2]
      rfl

theorem display_reset : display style none (Escape.reset.text ++ rest) = display {} none rest := rfl

theorem display_foreground (h : style.fg = .default) (color : Color) :
    display style none
        (((paletteNumber? color).map Escape.foreground).toList.flatMap Escape.text ++ rest) =
      display { style with fg := color } none rest := by
  cases color with
  | default =>
      rw [show { style with fg := .default } = style by rw [← h]]
      rfl
  | _ => rfl

theorem display_background (h : style.bg = .default) (color : Color) :
    display style none
        (((paletteNumber? color).map Escape.background).toList.flatMap Escape.text ++ rest) =
      display { style with bg := color } none rest := by
  cases color with
  | default =>
      rw [show { style with bg := .default } = style by rw [← h]]
      rfl
  | _ => rfl

theorem display_attribute {escape : Escape} (set : Bool → Style) (hoff : set false = style)
    (hon : display style none (escape.text ++ rest) = display (set true) none rest) (b : Bool) :
    display style none ((if b then [escape] else []).flatMap Escape.text ++ rest) =
      display (set b) none rest := by
  cases b with
  | false =>
      rw [hoff]
      rfl
  | true => simpa using hon

/-- The changes lead from the default style to any other. -/
theorem display_escapesOf (style : Style) (rest : Text) :
    display {} none ((escapesOf style).flatMap Escape.text ++ rest) = display style none rest := by
  obtain ⟨fg, bg, bold, italic, underline, reverse⟩ := style
  simp only [escapesOf, List.flatMap_append, List.append_assoc]
  rw [display_foreground rfl, display_background rfl,
    display_attribute (fun b => ⟨fg, bg, b, false, false, false⟩) rfl rfl,
    display_attribute (fun b => ⟨fg, bg, bold, b, false, false⟩) rfl rfl,
    display_attribute (fun b => ⟨fg, bg, bold, italic, b, false⟩) rfl rfl,
    display_attribute (fun b => ⟨fg, bg, bold, italic, underline, b⟩) rfl rfl]

/-- Where a terminal in the default style reads `out`, it shows these characters in these styles and
is in the default style again. -/
def Shows (out : Text) (shown : List (Char × Style)) : Prop :=
  ∀ rest, display {} none (out ++ rest) =
    (shown ++ (display {} none rest).1, (display {} none rest).2)

theorem Shows.append {a b : Text} {x y : List (Char × Style)} (ha : Shows a x) (hb : Shows b y) :
    Shows (a ++ b) (x ++ y) := by
  intro rest
  rw [List.append_assoc, ha, hb]
  simp only [List.append_assoc]

theorem Shows.display_eq {out : Text} {shown : List (Char × Style)} (h : Shows out shown) :
    display {} none out = (shown, {}) := by
  simpa [display] using h []

theorem shows_plain {text : Text} (h : '\x1b' ∉ text) :
    Shows text (text.map fun c => (c, {})) := fun _ => display_plain h

theorem shows_styled (style : Style) {text : Text} (h : '\x1b' ∉ text) :
    Shows (styled style text) (text.map fun c => (c, style)) := by
  intro rest
  by_cases hdefault : style.isDefault = true
  · rw [styled, if_pos hdefault, display_plain h]
    rw [show style = {} from eq_of_beq hdefault]
  · rw [styled, if_neg hdefault]
    simp only [List.append_assoc]
    rw [display_escapesOf, display_plain h, display_reset, display_reset]

end Highlighter.Terminal
