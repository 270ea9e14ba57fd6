import Highlighter.Proofs.Terminal.Line
import Highlighter.Output

/-!
What becomes of a highlighted line. Its spans never cut a character, so it can always be written to a
terminal, and a report has an entry for each of them.
-/
namespace Highlighter

/-! ## Reports -/

namespace Report

variable {number : Nat} {text : Text}

theorem isSome_describe? {span : Span} (hstart : text.IsBoundary span.start)
    (hstop : text.IsBoundary span.stop) (hle : span.start ≤ span.stop) :
    (describe? number text span).isSome := by
  obtain ⟨before, hbefore⟩ := Text.exists_slice? (Text.isBoundary_zero text) hstart (Nat.zero_le _)
  obtain ⟨body, hbody⟩ := Text.exists_slice? hstart hstop hle
  simp [describe?, hbefore, hbody]

/-- If every span is a part of the line, the report leaves out none. -/
theorem map_some_entries {spans : List Span}
    (h : ∀ span ∈ spans, (describe? number text span).isSome) :
    (entries number text spans).map some = spans.map (describe? number text) := by
  rw [entries, List.map_filterMap_some_eq_filter_map_isSome]
  exact List.filter_eq_self.2 (List.forall_mem_map.2 h)

end Report

/-! ## The whole -/

namespace Engine

theorem exists_line_highlightLine (engine : Engine) (text : Text) (state : LineState) (theme : Theme)
    (color : Bool) :
    ∃ out, Terminal.line theme color text (engine.highlightLine text state).spans = some out := by
  cases color with
  | false => exact ⟨_, rfl⟩
  | true =>
      obtain ⟨out, hout, _⟩ := Terminal.exists_coloredLine theme
        (engine.isBoundary_clamp_highlightLine text state)
      exact ⟨out, hout⟩

/-- Whatever the constructs and rules are, the bytes of a character are shown alike, and a span lies
within the line and between characters. So every highlighted line can be written, in colour or
without, and reported in full. -/
theorem highlightLine_cuts_no_character (engine : Engine) (text : Text) (state : LineState) :
    (∀ p q, text.SameCharacter p q → engine.shown text state p = engine.shown text state q) ∧
    (∀ span ∈ (engine.highlightLine text state).spans,
      span.start < span.stop ∧ span.stop ≤ text.byteLength ∧
        text.IsBoundary span.start ∧ text.IsBoundary span.stop) ∧
    (∀ (theme : Theme) (color : Bool), ∃ out,
      Terminal.line theme color text (engine.highlightLine text state).spans = some out) ∧
    ∀ number : Nat,
      (Report.entries number text (engine.highlightLine text state).spans).map some =
        (engine.highlightLine text state).spans.map (Report.describe? number text) := by
  refine ⟨fun p q => engine.shown_eq_of_sameCharacter text state, fun span hspan => ?_,
    engine.exists_line_highlightLine text state, fun number => ?_⟩
  · obtain ⟨hlt, hle⟩ := engine.within_of_mem_highlightLine text state hspan
    exact ⟨hlt, hle, engine.isBoundary_of_mem_highlightLine text state hspan⟩
  · refine Report.map_some_entries fun span hspan => ?_
    obtain ⟨hstart, hstop⟩ := engine.isBoundary_of_mem_highlightLine text state hspan
    exact Report.isSome_describe? hstart hstop
      (Nat.le_of_lt (engine.within_of_mem_highlightLine text state hspan).1)

/-- An engine that finds a comment of no length before every character. -/
def gaps : Engine where
  name := "gaps"
  constructs := [⟨"gap", .empty, .empty, .comment, none, 1⟩]
  rules := ⟨[⟨"letter", .group 1 (.char (.one 'é')), [⟨1, .keyword, .keep, false⟩]⟩]⟩

/-- The search for constructs goes on inside a character, and the character stays whole. -/
theorem highlightLine_cuts_no_character_gaps :
    gaps.shown "aéa".toList .normal 1 = gaps.shown "aéa".toList .normal 2 ∧
    (gaps.highlightLine "aéa".toList .normal).spans = [⟨1, 3, .keyword⟩] ∧
    Text.IsBoundary "aéa".toList 1 ∧ Text.IsBoundary "aéa".toList 3 := by
  obtain ⟨hshown, hspans, -, -⟩ := gaps.highlightLine_cuts_no_character "aéa".toList .normal
  have hspan : (gaps.highlightLine "aéa".toList .normal).spans = [⟨1, 3, .keyword⟩] := by
    decide +kernel
  have hsame : Text.SameCharacter "aéa".toList 1 2 := ⟨['a'], 'é', ['a'], by decide⟩
  obtain ⟨-, -, hstart, hstop⟩ := hspans ⟨1, 3, .keyword⟩ (by rw [hspan]; exact List.mem_cons_self)
  exact ⟨hshown 1 2 hsame, hspan, hstart, hstop⟩

end Engine

end Highlighter
