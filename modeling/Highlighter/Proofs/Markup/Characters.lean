import Highlighter.Proofs.Construct.Found
import Highlighter.Proofs.Markup.Spans
import Highlighter.Proofs.Rule.Frame

/-!
Characters stay whole. Constructs and groups begin and end between characters, so the bytes of one
character are always written together, and no span begins or ends inside of one.
-/
namespace Highlighter

namespace Markup

/-- All bytes of one character are known to be the same. -/
def Uniform (markup : Markup) (text : Text) : Prop :=
  ∀ p q, text.SameCharacter p q → markup.slots[p]? = markup.slots[q]?

variable {markup : Markup} {text : Text}

theorem Uniform.categoryAt?_eq (h : markup.Uniform text) {p q : Nat} (hsame : text.SameCharacter p q) :
    markup.categoryAt? p = markup.categoryAt? q := by
  rw [categoryAt?, categoryAt?, h p q hsame]

theorem uniform_blank (text : Text) : (blank text.byteLength).Uniform text := by
  rintro p q ⟨pre, c, post, rfl, hp, hq⟩
  simp only [Text.byteLength_append, Text.byteLength_cons]
  have hslot : ∀ n < pre.byteLength + (c.utf8Size + post.byteLength),
      (blank (pre.byteLength + (c.utf8Size + post.byteLength))).slots[n]? = some none :=
    fun n hn => List.getElem?_replicate_of_lt hn
  rw [hslot p (by omega), hslot q (by omega)]

/-- A write between boundaries covers a character as a whole or not at all. -/
theorem Uniform.write (h : markup.Uniform text) {a : Assignment} (hstart : text.IsBoundary a.start)
    (hstop : text.IsBoundary a.stop) : (markup.write a).1.Uniform text := by
  intro p q hsame
  have hcovers : a.Covers p ↔ a.Covers q := by
    simp only [Assignment.Covers, hstart.le_iff hsame, ← Nat.not_le, hstop.le_iff hsame]
  rw [getElem?_write, getElem?_write, h p q hsame]
  simp only [hcovers]

theorem Uniform.writeAll (h : markup.Uniform text) {as : List Assignment}
    (has : ∀ a ∈ as, text.IsBoundary a.start ∧ text.IsBoundary a.stop) :
    (markup.writeAll as).1.Uniform text := by
  induction as generalizing markup with
  | nil => exact h
  | cons a as ih =>
      rw [List.forall_mem_cons] at has
      exact ih (h.write has.1.1 has.1.2) has.2

theorem Uniform.paintAll (h : markup.Uniform text) {spans : List Span}
    (hspans : ∀ span ∈ spans, text.IsBoundary span.start ∧ text.IsBoundary span.stop) :
    (markup.paintAll spans).Uniform text := by
  rw [paintAll_eq_writeAll]
  exact h.writeAll (List.forall_mem_map.2 hspans)

theorem Uniform.scan (h : markup.Uniform text) (constructs : List Construct) (state : LineState) :
    (markup.scan constructs text state).1.Uniform text :=
  h.paintAll (Construct.found_regions constructs text state).isBoundary

theorem Uniform.isBoundary_of_mem_spans (h : markup.Uniform text)
    (hlength : markup.length = text.byteLength) {span : Span} (hspan : span ∈ markup.spans) :
    text.IsBoundary span.start ∧ text.IsBoundary span.stop := by
  obtain ⟨hlt, hle⟩ := spans_within hspan
  -- at both ends the category changes, which it does not do inside a character
  constructor
  · refine Text.isBoundary_of_not_same (by omega) fun hpos hsame => ?_
    have hfirst := categoryAt?_of_mem_spans hspan (Span.contains_iff.2 ⟨Nat.le_refl _, hlt⟩)
    exact categoryAt?_pred_start_ne hspan hpos ((h.categoryAt?_eq hsame).trans hfirst)
  · refine Text.isBoundary_of_not_same (by omega) fun hpos hsame => ?_
    have hlast : markup.categoryAt? (span.stop - 1) = some span.category :=
      categoryAt?_of_mem_spans hspan (Span.contains_iff.2 (by omega))
    exact categoryAt?_stop_ne hspan ((h.categoryAt?_eq hsame).symm.trans hlast)

end Markup

theorem RuleSet.isBoundary_of_mem_assignments {set : RuleSet} {text : Text} {a : Assignment}
    (h : a ∈ set.assignments text) : text.IsBoundary a.start ∧ text.IsBoundary a.stop := by
  obtain ⟨rule, _, m, hm, highlight, _, range, hg, rfl⟩ := mem_assignments.1 h
  have hboundary := Match.group?_isBoundary (Pattern.matchAt_of_mem_findAll hm) hg
  rwa [Pattern.text_of_mem_findAll hm] at hboundary

namespace Engine

variable (engine : Engine) (text : Text) (state : LineState)

theorem uniform_marked : (engine.marked text state).Uniform text :=
  ((Markup.uniform_blank text).scan engine.constructs state).writeAll
    fun _ => RuleSet.isBoundary_of_mem_assignments

/-- The bytes of a character are shown alike. -/
theorem shown_eq_of_sameCharacter {p q : Nat} (h : text.SameCharacter p q) :
    engine.shown text state p = engine.shown text state q := by
  rw [shown_eq, shown_eq]
  exact (engine.uniform_marked text state).categoryAt?_eq h

theorem spans_highlightLine :
    (engine.highlightLine text state).spans = (engine.marked text state).spans := rfl

theorem within_of_mem_highlightLine {span : Span}
    (h : span ∈ (engine.highlightLine text state).spans) :
    span.start < span.stop ∧ span.stop ≤ text.byteLength := by
  rw [spans_highlightLine] at h
  simpa only [length_marked] using Markup.spans_within h

theorem isBoundary_of_mem_highlightLine {span : Span}
    (h : span ∈ (engine.highlightLine text state).spans) :
    text.IsBoundary span.start ∧ text.IsBoundary span.stop :=
  (engine.uniform_marked text state).isBoundary_of_mem_spans (length_marked ..) h

end Engine

end Highlighter
