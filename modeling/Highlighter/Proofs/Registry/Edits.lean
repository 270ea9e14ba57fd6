import Highlighter.Proofs.Registry.Cache
import Mathlib.Data.List.Chain

/-!
Calls for the lines of one buffer. A call that counts takes over the first lines of the last one that
counted, so it is right as long as lines come and go at the end of the buffer only, and none of those
that go while highlighting is switched off has been replaced by the time it is switched on again.
-/
namespace Highlighter

/-- A call for the spans of a buffer's lines, with highlighting switched on or off. -/
structure Call where
  enabled : Bool
  lines : List Text
deriving DecidableEq, Repr

/-- What calls for the lines of a buffer return. Highlighting is switched before each of them. -/
def Registry.calls (registry : Registry) (number : Nat) : List Call → List (List (List Span))
  | [] => []
  | c :: cs =>
    let called := (registry.perform (.setEnabled c.enabled)).highlightLines number c.lines
    called.2 :: called.1.calls number cs

namespace Call

/-- The lines that a call highlights if the kept lines have the given texts. -/
def highlighted (kept : List Text) (c : Call) : List Text :=
  kept.take (min kept.length c.lines.length) ++ c.lines.drop (min kept.length c.lines.length)

/-- What a call shows of the lines that it highlights. -/
def shows (engine : Engine) (lines : List Text) (c : Call) : List (List Span) :=
  if c.enabled then (engine.highlightLines lines).map HighlightedLine.spans
  else c.lines.map fun _ => []

/-- What calls return if the kept lines have the given texts at first. -/
def answers (engine : Engine) (kept : List Text) : List Call → List (List (List Span))
  | [] => []
  | c :: cs =>
    c.shows engine (c.highlighted kept) ::
      answers engine (if c.enabled then c.highlighted kept else kept) cs

/-- One list of lines begins with the other. -/
def Comparable (a b : List Text) : Prop := a <+: b ∨ b <+: a

instance : DecidableRel Comparable := fun a b => inferInstanceAs (Decidable (a <+: b ∨ b <+: a))

/-- No call takes over a line that was gone in the meantime: `kept` lines are kept, and the first
`stayed` of them have been there all the time. -/
def NoneLost (kept stayed : Nat) : List Call → Prop
  | [] => True
  | c :: cs =>
    if c.enabled then min kept c.lines.length ≤ stayed ∧ NoneLost c.lines.length c.lines.length cs
    else NoneLost kept (min stayed c.lines.length) cs

instance decidableNoneLost : (kept stayed : Nat) → (cs : List Call) → Decidable (NoneLost kept stayed cs)
  | _, _, [] => inferInstanceAs (Decidable True)
  | kept, stayed, c :: cs =>
    have := decidableNoneLost c.lines.length c.lines.length cs
    have := decidableNoneLost kept (min stayed c.lines.length) cs
    inferInstanceAs (Decidable (if c.enabled then _ ∧ _ else _))

end Call

namespace Buffer

variable {buffer : Buffer} {engine : Engine} {texts lines lines' : List Text}

/-- Of the given lines only their number and those that are not kept make a difference. -/
theorem highlight_congr (hlength : lines.length = lines'.length)
    (hdrop : lines.drop (min lines'.length buffer.validLines) =
      lines'.drop (min lines'.length buffer.validLines)) :
    buffer.highlight engine lines = buffer.highlight engine lines' := by
  have hkept : (buffer.invalidateFrom lines'.length).validLines =
      min lines'.length buffer.validLines := by
    simp [validLines, invalidateFrom]
  rw [← hkept] at hdrop
  simp only [highlight, hlength, hdrop]

/-- Whatever lines are given, the first ones are taken over from those that are kept. -/
theorem Shows.highlight_any (h : buffer.Shows engine texts) (lines : List Text) {n : Nat}
    (hn : min texts.length lines.length = n) :
    (buffer.highlight engine lines).Shows engine (texts.take n ++ lines.drop n) := by
  have htake : (texts.take n).length = n := by
    rw [List.length_take]
    omega
  have hlength : lines.length = (texts.take n ++ lines.drop n).length := by
    rw [List.length_append, htake, List.length_drop]
    omega
  have hcovered : min buffer.validLines (texts.take n ++ lines.drop n).length = n := by
    rw [← hlength, h.validLines_eq, hn]
  have hsame : buffer.highlight engine lines =
      buffer.highlight engine (texts.take n ++ lines.drop n) := by
    refine highlight_congr hlength ?_
    rw [Nat.min_comm, hcovered, List.drop_left' htake]
  rw [hsame]
  refine h.highlight ?_
  rw [hcovered, List.take_left' htake]

end Buffer

namespace Call

variable {engine : Engine} {kept last : List Text} {c : Call} {cs : List Call} {stayed : Nat}

theorem Comparable.take_eq {a b : List Text} (h : Comparable a b) {n : Nat} (ha : n ≤ a.length)
    (hb : n ≤ b.length) : a.take n = b.take n := by
  rcases h with ⟨more, rfl⟩ | ⟨more, rfl⟩
  · rw [List.take_append_of_le_length ha]
  · rw [List.take_append_of_le_length hb]

theorem highlighted_eq (h : kept.take (min kept.length c.lines.length) =
    c.lines.take (min kept.length c.lines.length)) : c.highlighted kept = c.lines := by
  rw [highlighted, h, List.take_append_drop]

/-- The answers are right if the kept lines and the lines of the last call have their first lines in
common, and nothing else is taken over. -/
theorem answers_eq (hsame : kept.take stayed = last.take stayed) (hlast : stayed ≤ last.length)
    (hchain : (last :: cs.map lines).IsChain Comparable) (hlost : NoneLost kept.length stayed cs) :
    answers engine kept cs = cs.map fun c => c.shows engine c.lines := by
  induction cs generalizing kept last stayed with
  | nil => rfl
  | cons c cs ih =>
      rw [List.map_cons, List.isChain_cons_cons] at hchain
      obtain ⟨hnext, hchain⟩ := hchain
      have hcommon : ∀ {n}, n ≤ stayed → n ≤ c.lines.length → kept.take n = c.lines.take n := by
        intro n hn hlines
        calc kept.take n = (kept.take stayed).take n := by rw [List.take_take, Nat.min_eq_left hn]
          _ = last.take n := by rw [hsame, List.take_take, Nat.min_eq_left hn]
          _ = c.lines.take n := hnext.take_eq (by omega) hlines
      rw [answers, List.map_cons]
      by_cases hon : c.enabled
      · simp only [NoneLost, hon, ↓reduceIte] at hlost
        obtain ⟨hstayed, hlost⟩ := hlost
        have heq : c.highlighted kept = c.lines := highlighted_eq (hcommon hstayed (by omega))
        rw [if_pos hon, heq, ih rfl (Nat.le_refl _) hchain hlost]
      · simp only [NoneLost, hon] at hlost
        have hempty : c.shows engine (c.highlighted kept) = c.shows engine c.lines := by
          simp [shows, hon]
        rw [if_neg hon, hempty,
          ih (hcommon (Nat.min_le_left ..) (Nat.min_le_right ..)) (Nat.min_le_right ..) hchain hlost]

end Call

namespace Registry

variable {registry : Registry} {number : Nat} {name : String} {mode : Mode} {texts : List Text}

theorem calls_eq_answers (hname : (registry.buffer number).mode = some name)
    (hget : registry.get? name = some mode) (hshows : (registry.buffer number).Shows mode.engine texts)
    (cs : List Call) : registry.calls number cs = Call.answers mode.engine texts cs := by
  induction cs generalizing registry texts with
  | nil => rfl
  | cons c cs ih =>
      rw [calls, Call.answers]
      by_cases hon : c.enabled
      · have hactive : (registry.perform (.setEnabled c.enabled)).activeMode? number = some mode :=
          activeMode?_eq_some_iff.2 ⟨hon, name, hname, hget⟩
        have hafter := hshows.highlight_any c.lines rfl
        rw [highlightLines_of_some hactive, if_pos hon, Call.shows, if_pos hon]
        refine List.cons_eq_cons.2 ⟨hafter.1, ih ?_ hget ?_⟩
        · rw [buffer_setBuffer, if_pos rfl]
          exact hname
        · rw [buffer_setBuffer, if_pos rfl]
          exact hafter
      · have hinactive : (registry.perform (.setEnabled c.enabled)).activeMode? number = none := by
          simp [activeMode?, perform, hon]
        rw [highlightLines_of_none hinactive, if_neg hon, Call.shows, if_neg hon]
        refine List.cons_eq_cons.2 ⟨rfl, ih ?_ hget ?_⟩
        · rw [buffer_setBuffer_self]
          exact hname
        · rw [buffer_setBuffer_self]
          exact hshows

/-- Calls for the lines of a buffer return what its mode makes of the first kept lines and, behind
them, of the given ones. If each list of lines begins with the one before it or the other way round,
this is what the mode makes of the given lines, unless a kept line was gone while highlighting was off. -/
theorem calls_from_scratch (registry : Registry) (number : Nat) (name : String) (mode : Mode)
    (texts : List Text) (cs : List Call) (hname : (registry.buffer number).mode = some name)
    (hget : registry.get? name = some mode)
    (hshows : (registry.buffer number).Shows mode.engine texts) :
    registry.calls number cs = Call.answers mode.engine texts cs ∧
    ((texts :: cs.map Call.lines).IsChain Call.Comparable →
      Call.NoneLost texts.length texts.length cs →
      registry.calls number cs = cs.map fun c =>
        if c.enabled then (mode.engine.highlightLines c.lines).map HighlightedLine.spans
        else c.lines.map fun _ => []) := by
  have hanswers := calls_eq_answers hname hget hshows cs
  refine ⟨hanswers, fun hchain hlost => ?_⟩
  rw [hanswers]
  exact Call.answers_eq rfl (Nat.le_refl _) hchain hlost

/-- Lines come while highlighting is off, and go and come while it is on. -/
theorem calls_from_scratch_toggled :
    (builtin.setMode 0 (some "ecmascript")).calls 0
        [⟨true, ["/*".toList, "x".toList]⟩, ⟨false, ["/*".toList, "x".toList, "*/".toList]⟩,
          ⟨true, ["/*".toList]⟩, ⟨true, ["/*".toList, "*/ var".toList]⟩] =
      [[[⟨0, 2, .comment⟩], [⟨0, 1, .comment⟩]], [[], [], []], [[⟨0, 2, .comment⟩]],
        [[⟨0, 2, .comment⟩], [⟨0, 2, .comment⟩, ⟨3, 6, .keyword⟩]]] := by
  have hcalls := calls_from_scratch (builtin.setMode 0 (some "ecmascript")) 0 "ecmascript" .ecmaScript []
    [⟨true, ["/*".toList, "x".toList]⟩, ⟨false, ["/*".toList, "x".toList, "*/".toList]⟩,
      ⟨true, ["/*".toList]⟩, ⟨true, ["/*".toList, "*/ var".toList]⟩]
    rfl (by decide +kernel) ⟨rfl, rfl⟩
  rw [hcalls.2 (by decide +kernel) (by decide +kernel)]
  decide +kernel

/-- A line is cut off while highlighting is off, and another one is shown as that line was. -/
theorem lost_line_taken_over :
    (([] : List Text) :: [⟨true, ["x".toList, "var".toList]⟩, ⟨false, ["x".toList]⟩,
      ⟨true, ["x".toList, "y z".toList]⟩].map Call.lines).IsChain Call.Comparable ∧
    (builtin.setMode 0 (some "ecmascript")).calls 0
        [⟨true, ["x".toList, "var".toList]⟩, ⟨false, ["x".toList]⟩,
          ⟨true, ["x".toList, "y z".toList]⟩] =
      [[[], [⟨0, 3, .keyword⟩]], [[]], [[], [⟨0, 3, .keyword⟩]]] ∧
    ((Script.ecmaScript .three).highlightLines ["x".toList, "y z".toList]).map HighlightedLine.spans =
      [[], []] := by
  decide +kernel

end Registry

end Highlighter
