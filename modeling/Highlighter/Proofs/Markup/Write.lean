import Highlighter.Markup
import Highlighter.Proofs.Markup.Spans

/-!
What writes leave behind at one byte. A write concerns the bytes that it covers; a category that is
there gives way to replacing writes only, and of these the last one counts.
-/
namespace Highlighter

def Assignment.Covers (a : Assignment) (pos : Nat) : Prop := a.start ≤ pos ∧ pos < a.stop

instance (a : Assignment) (pos : Nat) : Decidable (a.Covers pos) :=
  inferInstanceAs (Decidable (_ ∧ _))

/-- A write over the byte that counts whatever stands there. -/
def Assignment.Replaces (a : Assignment) (pos : Nat) : Prop := a.policy = .replace ∧ a.Covers pos

instance (a : Assignment) (pos : Nat) : Decidable (a.Replaces pos) :=
  inferInstanceAs (Decidable (_ ∧ _))

/-- A slot after a write over it; `free` tells whether all slots of the range were empty. -/
def Policy.rewrite (policy : Policy) (category : Category) (free : Bool) (slot : Slot) : Slot :=
  match policy with
  | skip => if free then some category else slot
  | replace => some category
  | keep => some (slot.getD category)

theorem Policy.fill_fst (policy : Policy) (category : Category) (slots : List Slot) :
    (policy.fill category slots).1 = slots.map (policy.rewrite category (!slots.any Option.isSome)) := by
  cases policy with
  | skip =>
      by_cases h : slots.any Option.isSome
      · have hkeep : skip.rewrite category false = id := rfl
        simp only [fill, h, ↓reduceIte, Bool.not_true, hkeep, List.map_id]
      · have hfill : skip.rewrite category true = fun _ => some category := rfl
        simp [fill, h, hfill]
  | replace => rfl
  | keep => rfl

theorem Policy.rewrite_some {policy : Policy} (h : policy ≠ .replace) (category old : Category)
    (free : Bool) (hfree : free = false) : policy.rewrite category free (some old) = some old := by
  cases policy with
  | skip => simp [rewrite, hfree]
  | replace => exact absurd rfl h
  | keep => rfl

namespace Markup

def isFree (markup : Markup) (a : Assignment) : Bool :=
  !((markup.slots.take a.stop).drop a.start).any Option.isSome

/-- A write changes the slots that it covers, one by one. -/
theorem getElem?_write (markup : Markup) (a : Assignment) (pos : Nat) :
    (markup.write a).1.slots[pos]? =
      if a.Covers pos then markup.slots[pos]?.map (a.policy.rewrite a.category (markup.isFree a))
      else markup.slots[pos]? := by
  unfold write assign
  split
  · rename_i h
    simp only [Policy.fill_fst]
    exact getElem?_splice _ _ h pos
  · rename_i h
    have hcovers : ¬ a.Covers pos := by
      rintro ⟨h₁, h₂⟩
      omega
    rw [if_neg hcovers]

@[simp] theorem length_write (markup : Markup) (a : Assignment) :
    (markup.write a).1.length = markup.length := by
  unfold write assign
  split
  · simp only [length, Policy.fill_fst, List.length_append, List.length_take, List.length_map,
      List.length_drop]
    omega
  · rfl

theorem categoryAt?_eq_some_iff {markup : Markup} {pos : Nat} {c : Category} :
    markup.categoryAt? pos = some c ↔ markup.slots[pos]? = some (some c) := by
  cases h : markup.slots[pos]? <;> simp [categoryAt?, h]

theorem lt_length_of_categoryAt? {markup : Markup} {pos : Nat} {c : Category}
    (h : markup.categoryAt? pos = some c) : pos < markup.length :=
  (List.getElem?_eq_some_iff.1 (categoryAt?_eq_some_iff.1 h)).1

theorem categoryAt?_write_of_not_covers {markup : Markup} {a : Assignment} {pos : Nat}
    (h : ¬ a.Covers pos) : (markup.write a).1.categoryAt? pos = markup.categoryAt? pos := by
  simp only [categoryAt?, getElem?_write, h, ↓reduceIte]

theorem isFree_eq_false {markup : Markup} {a : Assignment} {pos : Nat} {c : Category}
    (h : markup.categoryAt? pos = some c) (ha : a.Covers pos) : markup.isFree a = false := by
  have hmem : some c ∈ (markup.slots.take a.stop).drop a.start := by
    refine List.mem_of_getElem? (i := pos - a.start) ?_
    rw [List.getElem?_drop, List.getElem?_take, show a.start + (pos - a.start) = pos by
      have := ha.1; omega, if_pos ha.2]
    exact categoryAt?_eq_some_iff.1 h
  simpa [isFree] using ⟨some c, hmem, rfl⟩

/-- Only a replacing write changes a category that is there. -/
theorem categoryAt?_write_of_some {markup : Markup} {a : Assignment} {pos : Nat} {c : Category}
    (h : markup.categoryAt? pos = some c) (ha : ¬ a.Replaces pos) :
    (markup.write a).1.categoryAt? pos = some c := by
  by_cases hcovers : a.Covers pos
  · have hpolicy : a.policy ≠ .replace := fun hp => ha ⟨hp, hcovers⟩
    rw [categoryAt?_eq_some_iff, getElem?_write, if_pos hcovers,
      categoryAt?_eq_some_iff.1 h, Option.map_some,
      Policy.rewrite_some hpolicy _ _ _ (isFree_eq_false h hcovers)]
  · rw [categoryAt?_write_of_not_covers hcovers, h]

theorem categoryAt?_write_of_replaces {markup : Markup} {a : Assignment} {pos : Nat}
    (hpos : pos < markup.length) (ha : a.Replaces pos) :
    (markup.write a).1.categoryAt? pos = some a.category := by
  rw [categoryAt?_eq_some_iff, getElem?_write, if_pos ha.2,
    List.getElem?_eq_getElem hpos, Option.map_some, ha.1]
  rfl

@[simp] theorem length_writeAll (markup : Markup) (as : List Assignment) :
    (markup.writeAll as).1.length = markup.length := by
  induction as generalizing markup with
  | nil => rfl
  | cons a as ih => rw [writeAll_cons, ih, length_write]

theorem categoryAt?_writeAll_of_not_covers {markup : Markup} {as : List Assignment} {pos : Nat}
    (h : ∀ a ∈ as, ¬ a.Covers pos) :
    (markup.writeAll as).1.categoryAt? pos = markup.categoryAt? pos := by
  induction as generalizing markup with
  | nil => rfl
  | cons a as ih =>
      rw [List.forall_mem_cons] at h
      rw [writeAll_cons, ih h.2, categoryAt?_write_of_not_covers h.1]

theorem categoryAt?_writeAll_of_some {markup : Markup} {as : List Assignment} {pos : Nat}
    {c : Category} (h : markup.categoryAt? pos = some c) (has : ∀ a ∈ as, ¬ a.Replaces pos) :
    (markup.writeAll as).1.categoryAt? pos = some c := by
  induction as generalizing markup with
  | nil => exact h
  | cons a as ih =>
      rw [List.forall_mem_cons] at has
      exact ih (categoryAt?_write_of_some h has.1) has.2

theorem categoryAt?_writeAll_of_last {markup : Markup} {before after : List Assignment}
    {a : Assignment} {pos : Nat} (hpos : pos < markup.length) (ha : a.Replaces pos)
    (hafter : ∀ b ∈ after, ¬ b.Replaces pos) :
    (markup.writeAll (before ++ a :: after)).1.categoryAt? pos = some a.category := by
  rw [writeAll_append, writeAll_cons]
  refine categoryAt?_writeAll_of_some (categoryAt?_write_of_replaces ?_ ha) hafter
  rwa [length_writeAll]

theorem exists_last_replaces {as : List Assignment} {pos : Nat} (h : ∃ a ∈ as, a.Replaces pos) :
    ∃ before a after, as = before ++ a :: after ∧ a.Replaces pos ∧ ∀ b ∈ after, ¬ b.Replaces pos := by
  induction as with
  | nil => simp at h
  | cons x as ih =>
      by_cases htail : ∃ a ∈ as, a.Replaces pos
      · obtain ⟨before, a, after, rfl, ha, hafter⟩ := ih htail
        exact ⟨x :: before, a, after, rfl, ha, hafter⟩
      · have hnone : ∀ b ∈ as, ¬ b.Replaces pos := fun b hb hr => htail ⟨b, hb, hr⟩
        obtain ⟨a, ha, hr⟩ := h
        rcases List.mem_cons.1 ha with rfl | ha
        · exact ⟨[], a, as, rfl, hr, hnone⟩
        · exact absurd hr (hnone a ha)

theorem categoryAt?_writeAll_of_replaces {markup : Markup} {as : List Assignment} {pos : Nat}
    {c : Category} (hpos : pos < markup.length) (h : ∃ a ∈ as, a.Replaces pos)
    (hall : ∀ a ∈ as, a.Replaces pos → a.category = c) :
    (markup.writeAll as).1.categoryAt? pos = some c := by
  obtain ⟨before, a, after, rfl, ha, hafter⟩ := exists_last_replaces h
  rw [categoryAt?_writeAll_of_last hpos ha hafter, hall a (by simp) ha]

@[simp] theorem length_blank (n : Nat) : (blank n).length = n := List.length_replicate ..

theorem paint_middle (before middle after : List Slot) {start stop : Nat} (category : Category)
    (hstart : start = before.length) (hstop : stop = before.length + middle.length) :
    (Markup.mk (before ++ (middle ++ after))).paint start stop category =
      ⟨before ++ (.replicate middle.length (some category) ++ after)⟩ := by
  subst hstart hstop
  cases middle with
  | nil => simp [paint, assign]
  | cons slot middle =>
      have htake : (before ++ (slot :: middle ++ after)).take (before.length + (slot :: middle).length) =
          before ++ slot :: middle := by
        rw [← List.append_assoc, List.take_left' (by simp)]
      have hdrop : (before ++ (slot :: middle ++ after)).drop (before.length + (slot :: middle).length) =
          after := by
        rw [← List.append_assoc, List.drop_left' (by simp)]
      have hlt : before.length < before.length + (slot :: middle).length := by simp
      simp only [paint, assign, hlt, ↓reduceIte, htake, hdrop, Policy.fill, List.drop_left,
        List.take_left, List.map_const', List.append_assoc]

theorem paint_eq_write (markup : Markup) (start stop : Nat) (category : Category) :
    markup.paint start stop category = (markup.write ⟨start, stop, category, .replace⟩).1 := rfl

theorem paintAll_cons (markup : Markup) (span : Span) (spans : List Span) :
    markup.paintAll (span :: spans) =
      (markup.paint span.start span.stop span.category).paintAll spans := rfl

/-- The first of some spans, painted where nothing is known behind the slots that are filled. -/
theorem paintAll_cons_unknown (filled : List Slot) {gap middle rest total start stop : Nat}
    (category : Category) (spans : List Span) (htotal : total = gap + (middle + rest))
    (hstart : start = filled.length + gap) (hstop : stop = start + middle) :
    (Markup.mk (filled ++ .replicate total none)).paintAll (⟨start, stop, category⟩ :: spans) =
      (Markup.mk (filled ++ .replicate gap none ++ .replicate middle (some category) ++
        .replicate rest none)).paintAll spans := by
  have hparts : filled ++ .replicate total (none : Slot) =
      filled ++ .replicate gap none ++ (.replicate middle none ++ .replicate rest none) := by
    simp [htotal, ← List.replicate_append_replicate]
  have hpaint := paint_middle (filled ++ .replicate gap none) (.replicate middle none)
    (.replicate rest none) category (by simpa using hstart) (by simpa [hstart] using hstop)
  rw [paintAll_cons, hparts, hpaint, List.length_replicate, List.append_assoc _ (.replicate middle _)]

theorem paintAll_eq_writeAll (markup : Markup) (spans : List Span) :
    markup.paintAll spans =
      (markup.writeAll (spans.map fun span => ⟨span.start, span.stop, span.category, .replace⟩)).1 := by
  induction spans generalizing markup with
  | nil => rfl
  | cons span spans ih => rw [paintAll_cons, ih, paint_eq_write, List.map_cons, writeAll_cons]

@[simp] theorem length_paintAll (markup : Markup) (spans : List Span) :
    (markup.paintAll spans).length = markup.length := by
  rw [paintAll_eq_writeAll, length_writeAll]

theorem categoryAt?_paintAll_of_not_contains {markup : Markup} {spans : List Span} {pos : Nat}
    (h : ∀ span ∈ spans, span.contains pos = false) :
    (markup.paintAll spans).categoryAt? pos = markup.categoryAt? pos := by
  rw [paintAll_eq_writeAll]
  refine categoryAt?_writeAll_of_not_covers (List.forall_mem_map.2 fun span hspan hcovers => ?_)
  exact Bool.eq_false_iff.1 (h span hspan) (Span.contains_iff.2 hcovers)

/-- Spans that lie one after the other are all still there after painting. -/
theorem categoryAt?_paintAll_of_contains {markup : Markup} {spans : List Span} {pos : Nat} {span : Span}
    (hpos : pos < markup.length) (hspans : spans.Pairwise fun a b => a.stop ≤ b.start)
    (hspan : span ∈ spans) (hcontains : span.contains pos = true) :
    (markup.paintAll spans).categoryAt? pos = some span.category := by
  rw [paintAll_eq_writeAll]
  refine categoryAt?_writeAll_of_replaces hpos
    ⟨_, List.mem_map_of_mem hspan, rfl, Span.contains_iff.1 hcontains⟩ ?_
  refine List.forall_mem_map.2 fun other hother hr => ?_
  rw [Span.eq_of_contains hspans hspan hother hcontains (Span.contains_iff.2 hr.2)]

end Markup

end Highlighter
