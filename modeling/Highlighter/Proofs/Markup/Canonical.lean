import Highlighter.Proofs.Rule.Takes

/-!
Slots and spans are two forms of the same knowledge. The spans of a markup are a canonical list, from
which the markup can be written again, and every canonical list is the spans of what it writes.
-/
namespace Highlighter

/-- Spans from left to right in a line of `length` bytes; none is empty, and of two that touch each
other the categories differ. -/
structure Span.Canonical (length : Nat) (spans : List Span) : Prop where
  within : ∀ span ∈ spans, span.start < span.stop ∧ span.stop ≤ length
  inOrder : spans.Pairwise fun a b => a.stop ≤ b.start
  merged : ∀ a ∈ spans, ∀ b ∈ spans, a.stop = b.start → a.category ≠ b.category

namespace Span

variable {length pos : Nat} {spans : List Span}

theorem Canonical.apart (h : Canonical length spans) : spans.Pairwise Apart := by
  refine h.inOrder.imp_of_mem fun {a b} ha hb hle => ?_
  rcases Nat.lt_or_eq_of_le hle with hlt | htouch
  · exact .inl hlt
  · exact .inr ⟨htouch, h.merged a ha b hb htouch⟩

/-- Of two spans that touch each other, the one on the left comes first. -/
theorem category_ne_of_touch (hwithin : ∀ span ∈ spans, span.start < span.stop)
    (hapart : spans.Pairwise Apart) {a b : Span} (ha : a ∈ spans) (hb : b ∈ spans)
    (htouch : a.stop = b.start) : a.category ≠ b.category := by
  have hfirst := hwithin a ha
  have hsecond := hwithin b hb
  rcases pairwise_cases hapart ha hb with rfl | hab | hba
  · omega
  · rcases hab with hlt | ⟨-, hne⟩
    · omega
    · exact hne
  · have hle := hba.le
    omega

theorem exists_contains_iff (h : spans.Pairwise fun a b => a.stop ≤ b.start) {c : Category} :
    (∃ span ∈ spans, span.category = c ∧ span.contains pos = true) ↔
      categoryAt? spans pos = some c := by
  constructor
  · rintro ⟨span, hspan, rfl, hcontains⟩
    exact categoryAt?_of_contains h hspan hcontains
  · exact exists_of_categoryAt?

end Span

namespace Markup

theorem canonical_spans (markup : Markup) : Span.Canonical markup.length markup.spans where
  within _ hspan := spans_within hspan
  inOrder := markup.pairwise_spans.imp Span.Apart.le
  merged _ ha _ hb htouch :=
    Span.category_ne_of_touch (fun _ hspan => (spans_within hspan).1) markup.pairwise_spans ha hb htouch

@[simp] theorem length_ofSpans (length : Nat) (spans : List Span) :
    (ofSpans length spans).length = length := by
  rw [ofSpans, length_paintAll, length_blank]

/-- Spans that lie one after the other in the line are shown by what they write. -/
theorem categoryAt?_ofSpans {length : Nat} {spans : List Span}
    (hwithin : ∀ span ∈ spans, span.stop ≤ length)
    (horder : spans.Pairwise fun a b => a.stop ≤ b.start) (pos : Nat) :
    (ofSpans length spans).categoryAt? pos = Span.categoryAt? spans pos := by
  by_cases hin : ∃ span ∈ spans, span.contains pos = true
  · obtain ⟨span, hspan, hcontains⟩ := hin
    have hpos : pos < (blank length).length := by
      have hle := hwithin span hspan
      rw [Span.contains_iff] at hcontains
      rw [length_blank]
      omega
    rw [ofSpans, categoryAt?_paintAll_of_contains hpos horder hspan hcontains,
      Span.categoryAt?_of_contains horder hspan hcontains]
  · have hout : ∀ span ∈ spans, span.contains pos = false := fun span hspan =>
      Bool.eq_false_iff.2 fun hcontains => hin ⟨span, hspan, hcontains⟩
    rw [ofSpans, categoryAt?_paintAll_of_not_contains hout, categoryAt?_blank, Span.categoryAt?,
      List.find?_eq_none.2 fun span hspan => Bool.eq_false_iff.1 (hout span hspan), Option.map_none]

theorem ofSpans_spans (markup : Markup) : ofSpans markup.length markup.spans = markup := by
  have hcanonical := markup.canonical_spans
  refine ext_categoryAt? (length_ofSpans ..) fun pos _ => ?_
  rw [categoryAt?_ofSpans (fun span hspan => (hcanonical.within span hspan).2) hcanonical.inOrder,
    categoryAt?_spans]

theorem spans_ofSpans {length : Nat} {spans : List Span} (h : Span.Canonical length spans) :
    (ofSpans length spans).spans = spans := by
  refine Span.eq_of_categoryAt? (pairwise_spans _) h.apart (fun _ hspan => (spans_within hspan).1)
    (fun span hspan => (h.within span hspan).1) fun pos => ?_
  rw [categoryAt?_spans,
    categoryAt?_ofSpans (fun span hspan => (h.within span hspan).2) h.inOrder]

/-- The spans of a markup are canonical, they show at each byte what its slot says, and they write the
markup again. The lists of spans that are found again in what they write are the canonical ones. -/
theorem slots_and_spans_agree :
    (∀ markup : Markup, Span.Canonical markup.length markup.spans ∧
      (∀ pos c, (∃ span ∈ markup.spans, span.category = c ∧ span.contains pos = true) ↔
        markup.categoryAt? pos = some c) ∧
      (∀ pos, Span.categoryAt? markup.spans pos = markup.categoryAt? pos) ∧
      ofSpans markup.length markup.spans = markup) ∧
    ∀ length spans, (ofSpans length spans).spans = spans ↔ Span.Canonical length spans := by
  refine ⟨fun markup => ⟨markup.canonical_spans, fun pos c => ?_, markup.categoryAt?_spans,
    markup.ofSpans_spans⟩, fun length spans => ⟨fun heq => ?_, spans_ofSpans⟩⟩
  · rw [Span.exists_contains_iff markup.canonical_spans.inOrder, categoryAt?_spans]
  · have hcanonical := (ofSpans length spans).canonical_spans
    rwa [heq, length_ofSpans] at hcanonical

end Markup

end Highlighter
