import Highlighter.Proofs.Markup.Agreement
import Highlighter.Proofs.Pattern.Takes
import Highlighter.Proofs.Rule.Frame

/-!
What rules write, by the parts of the line that their groups take, and lines of which every part that
is taken belongs to one of some spans: these are the spans that are shown.
-/
namespace Highlighter

theorem Rule.inGroup_of_takes {rule : Rule} {group pos : Nat} {pre part post : Text}
    (h : rule.pattern.Takes group pre part post)
    (hpos : Text.InPart pre part pos) : rule.InGroup group (pre ++ (part ++ post)) pos := by
  obtain ⟨m, hm, hgroup⟩ := h
  exact ⟨m, hm, _, hgroup, hpos⟩

namespace RuleSet

variable {set : RuleSet} {text : Text} {a : Assignment}

theorem exists_takes_of_mem (ha : a ∈ set.assignments text) :
    ∃ rule ∈ set.rules, ∃ h ∈ rule.highlights, ∃ pre part post, text = pre ++ (part ++ post) ∧
      rule.pattern.Takes h.group pre part post ∧
      a = ⟨pre.byteLength, (pre ++ part).byteLength, h.category, h.policy⟩ := by
  obtain ⟨rule, hrule, m, hm, h, hh, range, hgroup, rfl⟩ := mem_assignments.1 ha
  obtain ⟨pre, part, post, htext, rfl, htakes⟩ := Pattern.exists_takes hm hgroup
  exact ⟨rule, hrule, h, hh, pre, part, post, htext, htakes, rfl⟩

theorem mem_assignments_of_takes {rule : Rule} (hrule : rule ∈ set.rules) {h : Highlight}
    (hh : h ∈ rule.highlights) {pre part post : Text} (htext : text = pre ++ (part ++ post))
    (htakes : rule.pattern.Takes h.group pre part post) :
    ⟨pre.byteLength, (pre ++ part).byteLength, h.category, h.policy⟩ ∈ set.assignments text := by
  obtain ⟨m, hm, hgroup⟩ := htakes
  rw [← htext] at hm
  exact mem_assignments.2 ⟨rule, hrule, m, hm, h, hh, _, hgroup, rfl⟩

end RuleSet

/-! ## Spans that writes realize -/

/-- The span of a part of a text, by what stands before it. -/
def Span.ofPart (pre part : Text) (category : Category) : Span :=
  ⟨pre.byteLength, (pre ++ part).byteLength, category⟩

@[simp] theorem Span.ofPart_start (pre part : Text) (c : Category) :
    (ofPart pre part c).start = pre.byteLength := rfl

@[simp] theorem Span.ofPart_stop (pre part : Text) (c : Category) :
    (ofPart pre part c).stop = pre.byteLength + part.byteLength := Text.byteLength_append pre part

@[simp] theorem Span.ofPart_category (pre part : Text) (c : Category) :
    (ofPart pre part c).category = c := rfl

/-- The write is about the range of the span, and about its category. -/
def Assignment.Is (a : Assignment) (span : Span) : Prop :=
  a.start = span.start ∧ a.stop = span.stop ∧ a.category = span.category

/-- All writes that meet the span are about the whole of it, or all agree on its category and one of
them fills it. -/
def Span.RealizedBy (span : Span) (as : List Assignment) : Prop :=
  (∃ a ∈ as, a.Is span ∧ Markup.Alone a as) ∨
    (∃ a ∈ as, a.Is span ∧ a.policy ≠ .skip) ∧
      ∀ a ∈ as, ∀ pos, span.contains pos = true → a.Covers pos → a.category = span.category

/-- The write is about a part of the span, and about its category. -/
def Assignment.Within (a : Assignment) (span : Span) : Prop :=
  a.category = span.category ∧ span.start ≤ a.start ∧ a.stop ≤ span.stop

/-- Where every write is within a span, a span is realized by a write about the whole of it that does
not skip, or that has no other writes within the span beside it. -/
theorem Span.realizedBy_of_within {spans : List Span} {as : List Assignment}
    (hspans : spans.Pairwise Span.Apart) (hwithin : ∀ a ∈ as, ∃ span ∈ spans, a.Within span)
    {span : Span} (hspan : span ∈ spans) {a : Assignment} (ha : a ∈ as) (his : a.Is span)
    (hwhole : a.policy ≠ .skip ∨ ∀ b ∈ as, b.Within span → b.Is span) : span.RealizedBy as := by
  have hmeet : ∀ b ∈ as, ∀ pos, span.contains pos = true → b.Covers pos → b.Within span := by
    intro b hb pos hpos hcovers
    obtain ⟨other, hother, hb'⟩ := hwithin b hb
    have hpos' : other.contains pos = true := by
      obtain ⟨-, hstart, hstop⟩ := hb'
      obtain ⟨hlo, hhi⟩ := hcovers
      rw [Span.contains_iff]
      omega
    rwa [Span.eq_of_contains (hspans.imp Span.Apart.le) hspan hother hpos hpos']
  obtain ⟨hstart, hstop, hcategory⟩ := his
  rcases hwhole with hpolicy | hwhole
  · refine .inr ⟨⟨a, ha, ⟨hstart, hstop, hcategory⟩, hpolicy⟩, fun b hb pos hpos hcovers => ?_⟩
    exact (hmeet b hb pos hpos hcovers).1
  · refine .inl ⟨a, ha, ⟨hstart, hstop, hcategory⟩, fun b hb pos hpos hcovers => ?_⟩
    rw [Assignment.Covers, hstart, hstop] at hpos
    obtain ⟨hstart', hstop', hcategory'⟩ :=
      hwhole b hb (hmeet b hb pos (Span.contains_iff.2 hpos) hcovers)
    exact ⟨hstart'.trans hstart.symm, hstop'.trans hstop.symm, hcategory'.trans hcategory.symm⟩

namespace Markup

variable {spans : List Span} {as : List Assignment} {n pos : Nat}

theorem categoryAt?_blank (n pos : Nat) : (blank n).categoryAt? pos = none := by
  rw [categoryAt?, blank, List.getElem?_replicate]
  split <;> rfl

theorem categoryAt?_of_realizedBy {span : Span} (hspan : span.RealizedBy as) (hstop : span.stop ≤ n)
    (hpos : span.contains pos = true) :
    ((blank n).writeAll as).1.categoryAt? pos = some span.category := by
  rw [Span.contains_iff] at hpos
  rcases hspan with ⟨a, ha, ⟨hfirst, hlast, hcategory⟩, halone⟩ |
    ⟨⟨a, ha, ⟨hfirst, hlast, hcategory⟩, hpolicy⟩, hagree⟩
  · rw [← hcategory]
    refine categoryAt?_writeAll_of_alone ha (by simpa [hlast] using hstop)
      (fun q _ => categoryAt?_blank n q) halone ?_
    rwa [Assignment.Covers, hfirst, hlast]
  · refine categoryAt?_writeAll_of_fills (by simp; omega) (fun d hd => ?_)
      (fun b hb => hagree b hb pos (Span.contains_iff.2 hpos)) ⟨a, ha, ?_, hpolicy⟩
    · rw [categoryAt?_blank] at hd
      cases hd
    · rwa [Assignment.Covers, hfirst, hlast]

/-- Nothing but the spans is written, and each of them is. -/
theorem categoryAt?_of_spans (hspans : spans.Pairwise Span.Apart)
    (hrealized : ∀ span ∈ spans, span.RealizedBy as) (hstop : ∀ span ∈ spans, span.stop ≤ n)
    (honly : ∀ a ∈ as, ∀ pos, a.Covers pos → ∃ span ∈ spans, span.contains pos = true) :
    ((blank n).writeAll as).1.categoryAt? pos = Span.categoryAt? spans pos := by
  by_cases hin : ∃ span ∈ spans, span.contains pos = true
  · obtain ⟨span, hspan, hcontains⟩ := hin
    rw [categoryAt?_of_realizedBy (hrealized span hspan) (hstop span hspan) hcontains,
      Span.categoryAt?_of_contains (hspans.imp Span.Apart.le) hspan hcontains]
  · rw [categoryAt?_writeAll_of_not_covers fun a ha hcovers => hin (honly a ha pos hcovers),
      categoryAt?_blank]
    cases hshown : Span.categoryAt? spans pos with
    | none => rfl
    | some c =>
        obtain ⟨span, hspan, -, hcontains⟩ := Span.exists_of_categoryAt? hshown
        exact absurd ⟨span, hspan, hcontains⟩ hin

end Markup

namespace RuleSet

variable {set : RuleSet} {markup : Markup} {text pre part post : Text} {pos : Nat}

/-- A part is shown for what it is taken for, if nothing is known about it and all that rules take of
it is the whole of it, for the same category. -/
theorem categoryAt?_apply_of_takes {rule : Rule} (hrule : rule ∈ set.rules) {h : Highlight}
    (hh : h ∈ rule.highlights) (htext : text = pre ++ (part ++ post))
    (htakes : rule.pattern.Takes h.group pre part post) (hlength : text.byteLength ≤ markup.length)
    (hfree : ∀ pos, Text.InPart pre part pos → markup.categoryAt? pos = none)
    (halone : ∀ rule' ∈ set.rules, ∀ h' ∈ rule'.highlights, ∀ pre' part' post' pos,
      text = pre' ++ (part' ++ post') → rule'.pattern.Takes h'.group pre' part' post' →
      Text.InPart pre part pos → Text.InPart pre' part' pos →
      pre' = pre ∧ part' = part ∧ h'.category = h.category)
    (hpos : Text.InPart pre part pos) : (set.apply text markup).1.categoryAt? pos = some h.category := by
  have hstop : (pre ++ part).byteLength ≤ markup.length := by
    rw [htext] at hlength
    simp only [Text.byteLength_append] at hlength ⊢
    omega
  refine Markup.categoryAt?_writeAll_of_alone (mem_assignments_of_takes hrule hh htext htakes) hstop
    hfree (fun b hb pos hcovers hcovers' => ?_) hpos
  obtain ⟨rule', hrule', h', hh', pre', part', post', htext', htakes', rfl⟩ := exists_takes_of_mem hb
  obtain ⟨rfl, rfl, hcategory⟩ :=
    halone rule' hrule' h' hh' pre' part' post' pos htext' htakes' hcovers hcovers'
  exact ⟨rfl, rfl, hcategory⟩

end RuleSet

namespace Engine

variable {engine : Engine} {text : Text} {state : LineState} {spans : List Span}

theorem spans_eq_of_shown (hspans : spans.Pairwise Span.Apart)
    (hne : ∀ span ∈ spans, span.start < span.stop)
    (hshown : ∀ pos, engine.shown text state pos = Span.categoryAt? spans pos) :
    (engine.highlightLine text state).spans = spans :=
  Span.eq_of_categoryAt? (Markup.pairwise_spans _) hspans
    (fun _ hspan => (Markup.spans_within hspan).1) hne hshown

end Engine

end Highlighter
