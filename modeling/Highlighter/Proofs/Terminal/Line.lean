import Highlighter.Proofs.Markup.Characters
import Highlighter.Proofs.Terminal.Display
import Highlighter.Proofs.Text.Boundary

/-!
What a terminal shows of a line. Every character is there, in the style of the first span that counts
and holds it, and the next line begins in the default style.
-/
namespace Highlighter

/-! ## Characters and their bytes -/

namespace Text

variable {α : Type}

/-- The characters of a text that begins at byte `pos`, each beside the value at its first byte. -/
def atBytes (f : Nat → α) (pos : Nat) : Text → List (Char × α)
  | [] => []
  | c :: cs => (c, f pos) :: atBytes f (pos + c.utf8Size) cs

theorem map_fst_atBytes (f : Nat → α) (pos : Nat) (text : Text) :
    (atBytes f pos text).map Prod.fst = text := by
  induction text generalizing pos with
  | nil => rfl
  | cons c text ih => simp [atBytes, ih]

theorem atBytes_append (f : Nat → α) (pos : Nat) (a b : Text) :
    atBytes f pos (a ++ b) = atBytes f pos a ++ atBytes f (pos + a.byteLength) b := by
  induction a generalizing pos with
  | nil => simp [atBytes]
  | cons c a ih => simp [atBytes, ih, Nat.add_assoc]

theorem atBytes_congr {f g : Nat → α} {pos : Nat} {text : Text}
    (h : ∀ n, pos ≤ n → n < pos + text.byteLength → f n = g n) :
    atBytes f pos text = atBytes g pos text := by
  induction text generalizing pos with
  | nil => rfl
  | cons c text ih =>
      have hc := c.utf8Size_pos
      simp only [byteLength_cons] at h
      rw [atBytes, atBytes, h pos (Nat.le_refl _) (by omega),
        ih fun n hle hlt => h n (by omega) (by omega)]

theorem atBytes_const (a : α) (pos : Nat) (text : Text) :
    atBytes (fun _ => a) pos text = text.map fun c => (c, a) := by
  induction text generalizing pos with
  | nil => rfl
  | cons c text ih => simp [atBytes, ih]

end Text

/-! ## The spans that count -/

namespace Span

/-- The part of a span on a line of some length. -/
def clamp (span : Span) (length : Nat) : Span :=
  ⟨min span.start length, min span.stop length, span.category⟩

/-- The spans that count on a line from byte `pos` on: each is not empty on the line and begins where
the one before it ends, or later. -/
def accepted (length : Nat) (pos : Nat) : List Span → List Span
  | [] => []
  | span :: spans =>
    if (span.clamp length).start < pos ∨ (span.clamp length).stop ≤ (span.clamp length).start then
      accepted length pos spans
    else span.clamp length :: accepted length (span.clamp length).stop spans

theorem le_start_of_mem_accepted {length pos : Nat} {spans : List Span} {span : Span}
    (h : span ∈ accepted length pos spans) : pos ≤ span.start := by
  induction spans generalizing pos with
  | nil => simp [accepted] at h
  | cons head spans ih =>
      rw [accepted] at h
      split at h
      · exact ih h
      · rcases List.mem_cons.1 h with rfl | h
        · omega
        · have := ih h
          omega

theorem clamp_eq_self {span : Span} {length : Nat} (h : span.start < span.stop ∧ span.stop ≤ length) :
    span.clamp length = span := by
  rw [clamp, Nat.min_eq_left (by omega), Nat.min_eq_left h.2]

/-- Spans in order within the line all count. -/
theorem accepted_eq_self {length pos : Nat} {spans : List Span}
    (hpairwise : spans.Pairwise fun a b => a.stop ≤ b.start)
    (hwithin : ∀ span ∈ spans, pos ≤ span.start ∧ span.start < span.stop ∧ span.stop ≤ length) :
    accepted length pos spans = spans := by
  induction spans generalizing pos with
  | nil => rfl
  | cons span spans ih =>
      obtain ⟨hspan, hspans⟩ := List.forall_mem_cons.1 hwithin
      obtain ⟨hle, hpairwise⟩ := List.pairwise_cons.1 hpairwise
      rw [accepted, clamp_eq_self hspan.2, if_neg (by omega),
        ih hpairwise fun other hother => ⟨hle other hother, (hspans other hother).2⟩]

end Span

namespace Terminal

variable {theme : Theme}

/-- The style of the first span that holds a byte. -/
def styleAt (theme : Theme) (spans : List Span) (pos : Nat) : Style :=
  ((Span.categoryAt? spans pos).map theme.style).getD {}

theorem styleAt_of_lt {spans : List Span} {pos : Nat} (h : ∀ span ∈ spans, pos < span.start) :
    styleAt theme spans pos = {} := by
  rw [styleAt, Span.categoryAt?_eq_none h]
  rfl

theorem styleAt_cons (span : Span) (spans : List Span) (pos : Nat) :
    styleAt theme (span :: spans) pos =
      if span.start ≤ pos ∧ pos < span.stop then theme.style span.category
      else styleAt theme spans pos := by
  rw [styleAt, Span.categoryAt?_cons]
  split
  · rfl
  · rfl

/-! ## Writing and reading -/

/-- One span in the middle of what is left of a line. -/
theorem atBytes_styleAt_cons {span : Span} {spans : List Span} {pre between body rest : Text}
    (hstart : (pre ++ between).byteLength = span.start)
    (hstop : (pre ++ between ++ body).byteLength = span.stop)
    (hspans : ∀ other ∈ spans, span.stop ≤ other.start) :
    Text.atBytes (styleAt theme (span :: spans)) pre.byteLength (between ++ (body ++ rest)) =
      (between.map fun c => (c, ({} : Style))) ++ (body.map fun c => (c, theme.style span.category)) ++
        Text.atBytes (styleAt theme spans) span.stop rest := by
  rw [Text.atBytes_append, Text.atBytes_append, ← Text.byteLength_append, ← Text.byteLength_append,
    hstop, ← List.append_assoc]
  simp only [Text.byteLength_append] at hstart hstop
  -- nothing holds a byte before the span, and nothing else one of its own
  congr 1
  · congr 1
    · rw [← Text.atBytes_const _ pre.byteLength]
      refine Text.atBytes_congr fun n hle hlt => styleAt_of_lt (List.forall_mem_cons.2 ⟨by omega, ?_⟩)
      intro other hother
      have := hspans other hother
      omega
    · rw [← Text.atBytes_const _ (pre ++ between).byteLength]
      refine Text.atBytes_congr fun n hle hlt => ?_
      rw [Text.byteLength_append] at hle hlt
      rw [styleAt_cons, if_pos (by omega)]
  · refine Text.atBytes_congr fun n hle hlt => ?_
    rw [styleAt_cons, if_neg (by omega)]

theorem spansFrom_cons (text : Text) (pos : Nat) (span : Span) (spans : List Span) :
    spansFrom theme text pos (span :: spans) =
      if (span.clamp text.byteLength).start < pos ∨
          (span.clamp text.byteLength).stop ≤ (span.clamp text.byteLength).start then
        spansFrom theme text pos spans
      else do
        let between ← text.slice? pos (span.clamp text.byteLength).start
        let body ← text.slice? (span.clamp text.byteLength).start (span.clamp text.byteLength).stop
        let rest ← spansFrom theme text (span.clamp text.byteLength).stop spans
        return between ++ styled (theme.style span.category) body ++ rest := rfl

/-- What is written of a line from one of its boundaries on. Escapes in the text matter to what is
shown of it, but not to whether it can be written. -/
theorem exists_spansFrom (theme : Theme) {text pre rest : Text} {spans : List Span}
    (htext : text = pre ++ rest)
    (hspans : ∀ span ∈ spans, text.IsBoundary (span.clamp text.byteLength).start ∧
      text.IsBoundary (span.clamp text.byteLength).stop) :
    ∃ out, spansFrom theme text pre.byteLength spans = some out ∧ ('\x1b' ∉ rest →
      Shows out (Text.atBytes (styleAt theme (Span.accepted text.byteLength pre.byteLength spans))
        pre.byteLength rest)) := by
  induction spans generalizing pre rest with
  | nil =>
      refine ⟨rest, ?_, fun h => ?_⟩
      · subst htext
        simpa [spansFrom] using Text.slice?_byteLength pre rest []
      · rw [show styleAt theme (Span.accepted _ _ []) = fun _ => {} from rfl, Text.atBytes_const]
        exact shows_plain h
  | cons span spans ih =>
      obtain ⟨⟨hstart, hstop⟩, hspans⟩ := List.forall_mem_cons.1 hspans
      rw [spansFrom_cons, Span.accepted]
      generalize hclamp : span.clamp text.byteLength = clamped at *
      by_cases hskip : clamped.start < pre.byteLength ∨ clamped.stop ≤ clamped.start
      · rw [if_pos hskip, if_pos hskip]
        exact ih htext hspans
      · rw [not_or, Nat.not_lt, Nat.not_le] at hskip
        -- the line is what is written already, the part before the span, the span and the rest
        rw [htext] at hstart
        obtain ⟨between, after, rfl, hbetween⟩ := hstart.drop hskip.1
        rw [htext, ← List.append_assoc] at hstop
        obtain ⟨body, rest, rfl, hbody⟩ := hstop.drop (by omega)
        have hsplit : text = pre ++ between ++ body ++ rest := by simp [htext]
        obtain ⟨out, hout, hshows⟩ := ih hsplit hspans
        rw [hbody] at hout hshows
        have hcategory : clamped.category = span.category := by rw [← hclamp]; rfl
        refine ⟨between ++ styled (theme.style span.category) body ++ out, ?_, fun h => ?_⟩
        · have hfirst : text.slice? pre.byteLength clamped.start = some between := by
            rw [htext, ← hbetween]
            exact Text.slice?_byteLength pre between _
          have hsecond : text.slice? clamped.start clamped.stop = some body := by
            rw [htext, ← hbetween, ← hbody, ← List.append_assoc]
            exact Text.slice?_byteLength (pre ++ between) body rest
          rw [if_neg (by omega), hfirst, hsecond, hout]
          rfl
        · simp only [List.mem_append, not_or] at h
          rw [if_neg (by omega), atBytes_styleAt_cons hbetween hbody
            fun _ => Span.le_start_of_mem_accepted, hcategory]
          exact ((shows_plain h.1).append (shows_styled _ h.2.1)).append (hshows h.2.2)

/-- A line can be written if the parts of its spans on it are cut between characters. -/
theorem exists_coloredLine (theme : Theme) {text : Text} {spans : List Span}
    (hspans : ∀ span ∈ spans, text.IsBoundary (span.clamp text.byteLength).start ∧
      text.IsBoundary (span.clamp text.byteLength).stop) :
    ∃ out, line theme true text spans = some out ∧ ('\x1b' ∉ text →
      Shows out (Text.atBytes (styleAt theme (Span.accepted text.byteLength 0 spans)) 0 text ++
        [('\n', ({} : Style))])) := by
  obtain ⟨out, hout, hshows⟩ := exists_spansFrom theme (List.nil_append text).symm hspans
  refine ⟨out ++ ['\n'], ?_, fun h => (hshows h).append (shows_plain (by decide))⟩
  exact congrArg (Option.map (· ++ ['\n'])) hout

end Terminal

/-! ## Highlighted lines -/

namespace Engine

variable (engine : Engine) (text : Text) (state : LineState)

theorem clamp_of_mem_highlightLine {span : Span}
    (h : span ∈ (engine.highlightLine text state).spans) : span.clamp text.byteLength = span :=
  Span.clamp_eq_self (engine.within_of_mem_highlightLine text state h)

theorem isBoundary_clamp_highlightLine :
    ∀ span ∈ (engine.highlightLine text state).spans,
      text.IsBoundary (span.clamp text.byteLength).start ∧
      text.IsBoundary (span.clamp text.byteLength).stop := by
  intro span hspan
  rw [engine.clamp_of_mem_highlightLine text state hspan]
  exact engine.isBoundary_of_mem_highlightLine text state hspan

theorem accepted_highlightLine :
    Span.accepted text.byteLength 0 (engine.highlightLine text state).spans =
      (engine.highlightLine text state).spans :=
  Span.accepted_eq_self ((Markup.pairwise_spans _).imp Span.Apart.le)
    fun _ h => ⟨Nat.zero_le _, engine.within_of_mem_highlightLine text state h⟩

end Engine

/-! ## The whole -/

namespace Terminal

/-- Spans may overlap, come in any order and reach past the end: what is written is the text, each
character in the style of the first span that counts and holds it, and the next line begins in the
default style. In a highlighted line, this is the style of what the character is. -/
theorem line_shows_text (theme : Theme) {text : Text} (htext : '\x1b' ∉ text) :
    (∀ spans : List Span,
      (∀ span ∈ spans, text.IsBoundary (span.clamp text.byteLength).start ∧
        text.IsBoundary (span.clamp text.byteLength).stop) →
      ∃ out, line theme true text spans = some out ∧
        line theme false text spans = some (text ++ ['\n']) ∧
        withoutEscapes false out = text ++ ['\n'] ∧
        Shows out (Text.atBytes (styleAt theme (Span.accepted text.byteLength 0 spans)) 0 text ++
          [('\n', ({} : Style))])) ∧
    ∀ (engine : Engine) (state : LineState),
      ∃ out, line theme true text (engine.highlightLine text state).spans = some out ∧
        Shows out (Text.atBytes
          (fun pos => ((engine.shown text state pos).map theme.style).getD {}) 0 text ++
            [('\n', ({} : Style))]) := by
  refine ⟨fun spans hspans => ?_, fun engine state => ?_⟩
  · obtain ⟨out, hout, hshows⟩ := exists_coloredLine theme hspans
    refine ⟨out, hout, rfl, ?_, hshows htext⟩
    have hfst := map_fst_display {} none out
    rw [(hshows htext).display_eq] at hfst
    simpa [Text.map_fst_atBytes] using hfst.symm
  · obtain ⟨out, hout, hshows⟩ :=
      exists_coloredLine theme (engine.isBoundary_clamp_highlightLine text state)
    rw [engine.accepted_highlightLine] at hshows
    exact ⟨out, hout, hshows htext⟩

/-- Of four spans, the first is empty on the line and the third overlaps the second. -/
theorem line_shows_text_overlapping :
    ∃ out, line {} true "né x".toList
        [⟨7, 9, .comment⟩, ⟨0, 3, .keyword⟩, ⟨1, 5, .string⟩, ⟨4, 9, .constant⟩] = some out ∧
      withoutEscapes false out = "né x\n".toList ∧
      display {} none out =
        ([('n', Category.keyword.defaultStyle), ('é', Category.keyword.defaultStyle), (' ', {}),
          ('x', Category.constant.defaultStyle), ('\n', {})], {}) := by
  obtain ⟨hspans, -⟩ := line_shows_text {} (show '\x1b' ∉ "né x".toList by decide)
  obtain ⟨out, hout, -, hplain, hshows⟩ :=
    hspans [⟨7, 9, .comment⟩, ⟨0, 3, .keyword⟩, ⟨1, 5, .string⟩, ⟨4, 9, .constant⟩] (by decide)
  exact ⟨out, hout, hplain, hshows.display_eq⟩

end Terminal

end Highlighter
