import Highlighter.Proofs.Markup.Repeat

/-!
Writes that agree on what a byte is. Then their order does not count: it is enough that one of them
fills the byte, or that all that meet a range that nothing is known about are writes of this range.
-/
namespace Highlighter

namespace Markup

variable {markup : Markup} {a : Assignment} {as : List Assignment} {pos : Nat} {c : Category}

theorem writeAll_cons_fst : (markup.writeAll (a :: as)).1 = ((markup.write a).1.writeAll as).1 := rfl

theorem eq_of_rewrite {policy : Policy} {category : Category} {free : Bool} {slot : Slot}
    (h : policy.rewrite category free slot = some c) : slot = some c ∨ category = c := by
  cases policy with
  | skip =>
      rw [Policy.rewrite] at h
      split at h
      · exact .inr (Option.some.inj h)
      · exact .inl h
  | replace => exact .inr (Option.some.inj h)
  | keep =>
      cases slot with
      | none => exact .inr (Option.some.inj h)
      | some d => exact .inl h

theorem categoryAt?_or_covers (h : (markup.write a).1.categoryAt? pos = some c) :
    markup.categoryAt? pos = some c ∨ a.Covers pos ∧ a.category = c := by
  by_cases hcovers : a.Covers pos
  · rw [categoryAt?_eq_some_iff, getElem?_write, if_pos hcovers] at h
    obtain ⟨slot, hslot, hrewrite⟩ := Option.map_eq_some_iff.1 h
    rcases eq_of_rewrite hrewrite with rfl | hcategory
    · exact .inl (categoryAt?_eq_some_iff.2 hslot)
    · exact .inr ⟨hcovers, hcategory⟩
  · rw [categoryAt?_write_of_not_covers hcovers] at h
    exact .inl h

/-- What is known about a byte was known before, or some write says so. -/
theorem exists_of_categoryAt?_writeAll (h : (markup.writeAll as).1.categoryAt? pos = some c) :
    markup.categoryAt? pos = some c ∨ ∃ a ∈ as, a.Covers pos ∧ a.category = c := by
  induction as generalizing markup with
  | nil => exact .inl h
  | cons a as ih =>
      rw [writeAll_cons_fst] at h
      rcases ih h with hwritten | ⟨b, hb, hlater⟩
      · rcases categoryAt?_or_covers hwritten with hbefore | hnow
        · exact .inl hbefore
        · exact .inr ⟨a, List.mem_cons_self, hnow⟩
      · exact .inr ⟨b, List.mem_cons_of_mem _ hb, hlater⟩

/-- Nothing else is known about the byte. -/
def Admits (markup : Markup) (pos : Nat) (c : Category) : Prop :=
  ∀ d, markup.categoryAt? pos = some d → d = c

theorem Admits.write (h : markup.Admits pos c) (ha : a.Covers pos → a.category = c) :
    (markup.write a).1.Admits pos c := by
  intro d hd
  rcases categoryAt?_or_covers hd with hbefore | ⟨hcovers, rfl⟩
  · exact h d hbefore
  · exact ha hcovers

theorem categoryAt?_write_of_agree (h : markup.categoryAt? pos = some c)
    (ha : a.Covers pos → a.category = c) : (markup.write a).1.categoryAt? pos = some c := by
  by_cases hr : a.Replaces pos
  · rw [categoryAt?_write_of_replaces (lt_length_of_categoryAt? h) hr, ha hr.2]
  · exact categoryAt?_write_of_some h hr

theorem categoryAt?_writeAll_of_agree (h : markup.categoryAt? pos = some c)
    (has : ∀ a ∈ as, a.Covers pos → a.category = c) :
    (markup.writeAll as).1.categoryAt? pos = some c := by
  induction as generalizing markup with
  | nil => exact h
  | cons a as ih =>
      rw [List.forall_mem_cons] at has
      rw [writeAll_cons_fst]
      exact ih (categoryAt?_write_of_agree h has.1) has.2

theorem categoryAt?_write_of_fills (hpos : pos < markup.length) (h : markup.Admits pos c)
    (hcovers : a.Covers pos) (hpolicy : a.policy ≠ .skip) (hcategory : a.category = c) :
    (markup.write a).1.categoryAt? pos = some c := by
  rw [categoryAt?_write_of_covers hcovers hpos]
  cases hp : a.policy with
  | skip => exact absurd hp hpolicy
  | replace => rw [← hcategory]; rfl
  | keep =>
      cases hslot : markup.categoryAt? pos with
      | none => rw [← hcategory]; rfl
      | some d => rw [h d hslot]; rfl

/-- One write that does not skip is enough. -/
theorem categoryAt?_writeAll_of_fills (hpos : pos < markup.length) (h : markup.Admits pos c)
    (has : ∀ a ∈ as, a.Covers pos → a.category = c)
    (hfill : ∃ a ∈ as, a.Covers pos ∧ a.policy ≠ .skip) :
    (markup.writeAll as).1.categoryAt? pos = some c := by
  induction as generalizing markup with
  | nil =>
      obtain ⟨a, ha, -⟩ := hfill
      cases ha
  | cons b as ih =>
      obtain ⟨hb, has⟩ := List.forall_mem_cons.1 has
      rw [writeAll_cons_fst]
      by_cases hhead : b.Covers pos ∧ b.policy ≠ .skip
      · exact categoryAt?_writeAll_of_agree
          (categoryAt?_write_of_fills hpos h hhead.1 hhead.2 (hb hhead.1)) has
      · obtain ⟨a, ha, hcovers⟩ := hfill
        rcases List.mem_cons.1 ha with rfl | ha
        · exact absurd hcovers hhead
        · have hlength : pos < (markup.write b).1.length := by rwa [length_write]
          exact ih hlength (h.write hb) has ⟨a, ha, hcovers⟩

theorem isFree_of_forall (hfree : ∀ pos, a.Covers pos → markup.categoryAt? pos = none) :
    markup.isFree a = true := by
  cases h : markup.isFree a with
  | true => rfl
  | false =>
      obtain ⟨pos, hcovers, hsome⟩ := exists_categorized_of_isFree h
      simp [hfree pos hcovers] at hsome

theorem categoryAt?_write_of_free (hstop : a.stop ≤ markup.length)
    (hfree : ∀ pos, a.Covers pos → markup.categoryAt? pos = none) (hcovers : a.Covers pos) :
    (markup.write a).1.categoryAt? pos = some a.category := by
  have hpos : pos < markup.length := Nat.lt_of_lt_of_le hcovers.2 hstop
  rw [categoryAt?_write_of_covers hcovers hpos, hfree pos hcovers, isFree_of_forall hfree]
  cases a.policy <;> rfl

/-- All writes that meet the range of a write are writes of this range and of its category. -/
def Alone (a : Assignment) (as : List Assignment) : Prop :=
  ∀ b ∈ as, ∀ pos, a.Covers pos → b.Covers pos →
    b.start = a.start ∧ b.stop = a.stop ∧ b.category = a.category

theorem categoryAt?_writeAll_of_alone (ha : a ∈ as) (hstop : a.stop ≤ markup.length)
    (hfree : ∀ pos, a.Covers pos → markup.categoryAt? pos = none) (halone : Alone a as)
    (hcovers : a.Covers pos) : (markup.writeAll as).1.categoryAt? pos = some a.category := by
  induction as generalizing markup with
  | nil => cases ha
  | cons b as ih =>
      obtain ⟨hb, hrest⟩ := List.forall_mem_cons.1 halone
      rw [writeAll_cons_fst]
      by_cases hmeet : ∃ q, a.Covers q ∧ b.Covers q
      · obtain ⟨q, hq, hq'⟩ := hmeet
        obtain ⟨hstart, hend, hcategory⟩ := hb q hq hq'
        have hsame : ∀ q, b.Covers q ↔ a.Covers q := by
          intro q
          rw [Assignment.Covers, Assignment.Covers, hstart, hend]
        have hfirst : (markup.write b).1.categoryAt? pos = some a.category := by
          rw [← hcategory]
          exact categoryAt?_write_of_free (hend ▸ hstop) (fun q h => hfree q ((hsame q).1 h))
            ((hsame pos).2 hcovers)
        exact categoryAt?_writeAll_of_agree hfirst fun b' hb' h => (hrest b' hb' pos hcovers h).2.2
      · have hne : a ≠ b := by
          rintro rfl
          exact hmeet ⟨pos, hcovers, hcovers⟩
        have hlength : a.stop ≤ (markup.write b).1.length := by rwa [length_write]
        refine ih ((List.mem_cons.1 ha).resolve_left hne) hlength (fun q hq => ?_) hrest
        rw [categoryAt?_write_of_not_covers fun h => hmeet ⟨q, hq, h⟩]
        exact hfree q hq

end Markup

end Highlighter
