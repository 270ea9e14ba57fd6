import Highlighter.Proofs.Markup.Agreement
import Highlighter.Proofs.Rule.Frame

/-!
What a report of change is worth. A write reports a change exactly if it leaves another markup than
it found. Without replacing writes the markup knows more and more, so that no change is undone later,
and the count of changes is 0 exactly if nothing changed in all.
-/
namespace Highlighter

/-- The byte is one of those of the line that the write is about. -/
def Assignment.On (a : Assignment) (markup : Markup) (pos : Nat) : Prop :=
  a.start ≤ pos ∧ pos < min a.stop markup.length

instance (a : Assignment) (markup : Markup) (pos : Nat) : Decidable (a.On markup pos) :=
  inferInstanceAs (Decidable (_ ∧ _))

namespace Markup

/-- What one write makes of a markup. -/
structure Assigned (before after : Markup) (a : Assignment) : Prop where
  length : after.length = before.length
  outside : ∀ pos, ¬ a.On before pos → after.slots[pos]? = before.slots[pos]?
  /-- A skipping write fills its whole range if nothing is known about it. -/
  free : a.policy = .skip → (∀ pos, a.On before pos → before.categoryAt? pos = none) →
    ∀ pos, a.On before pos → after.categoryAt? pos = some a.category
  /-- A skipping write does nothing if something is known about its range. -/
  taken : a.policy = .skip → (∃ pos, a.On before pos ∧ before.categoryAt? pos ≠ none) →
    after = before
  replaced : a.policy = .replace → ∀ pos, a.On before pos → after.categoryAt? pos = some a.category
  filled : a.policy = .keep → ∀ pos, a.On before pos →
    after.categoryAt? pos = some ((before.categoryAt? pos).getD a.category)

variable {markup other : Markup} {a : Assignment} {as : List Assignment} {pos : Nat}

/-! ## One write -/

theorem on_iff : a.On markup pos ↔ a.Covers pos ∧ pos < markup.length := by
  rw [Assignment.On, Assignment.Covers]
  omega

theorem getElem?_write_of_not_on (h : ¬ a.On markup pos) :
    (markup.write a).1.slots[pos]? = markup.slots[pos]? := by
  rw [getElem?_write]
  by_cases hcovers : a.Covers pos
  · have hpos : markup.length ≤ pos := Nat.le_of_not_lt fun hlt => h (on_iff.2 ⟨hcovers, hlt⟩)
    rw [if_pos hcovers, List.getElem?_eq_none hpos, Option.map_none]
  · rw [if_neg hcovers]

theorem categoryAt?_write_of_on (h : a.On markup pos) :
    (markup.write a).1.categoryAt? pos =
      a.policy.rewrite a.category (markup.isFree a) (markup.categoryAt? pos) := by
  obtain ⟨hcovers, hpos⟩ := on_iff.1 h
  exact categoryAt?_write_of_covers hcovers hpos

theorem isFree_of_on (h : ∀ pos, a.On markup pos → markup.categoryAt? pos = none) :
    markup.isFree a = true := by
  refine isFree_of_forall fun pos hcovers => ?_
  by_cases hpos : pos < markup.length
  · exact h pos (on_iff.2 ⟨hcovers, hpos⟩)
  · exact categoryAt?_of_length_le (Nat.le_of_not_lt hpos)

theorem write_fst_of_taken (hskip : a.policy = .skip)
    (h : ∃ pos, a.On markup pos ∧ markup.categoryAt? pos ≠ none) : (markup.write a).1 = markup := by
  obtain ⟨other, hother, hne⟩ := h
  obtain ⟨c, hc⟩ := Option.ne_none_iff_exists'.1 hne
  have hfree := isFree_eq_false hc (on_iff.1 hother).1
  refine ext_categoryAt? (length_write ..) fun pos _ => ?_
  by_cases hon : a.On markup pos
  · rw [categoryAt?_write_of_on hon, hskip, hfree]
    rfl
  · rw [categoryAt?, categoryAt?, getElem?_write_of_not_on hon]

theorem assigned_write (markup : Markup) (a : Assignment) : Assigned markup (markup.write a).1 a where
  length := length_write ..
  outside _ h := getElem?_write_of_not_on h
  free hskip h pos hon := by
    rw [categoryAt?_write_of_on hon, hskip, isFree_of_on h]
    rfl
  taken := write_fst_of_taken
  replaced hreplace pos hon := by
    rw [categoryAt?_write_of_on hon, hreplace]
    rfl
  filled hkeep pos hon := by
    rw [categoryAt?_write_of_on hon, hkeep]
    rfl

/-! ## Several writes -/

/-- The number of writes that leave another markup than they find. -/
def changes (markup : Markup) : List Assignment → Nat
  | [] => 0
  | a :: as => (if (markup.write a).1 = markup then 0 else 1) + (markup.write a).1.changes as

/-- What is reported as the number of changes is the number of changes. -/
theorem writeAll_snd (markup : Markup) (as : List Assignment) :
    (markup.writeAll as).2 = markup.changes as := by
  induction as generalizing markup with
  | nil => rfl
  | cons a as ih =>
      rw [writeAll_cons, changes, ih]
      by_cases hsame : (markup.write a).1 = markup
      · rw [if_pos hsame, write_snd_eq_false_iff.2 hsame]
        rfl
      · rw [if_neg hsame, write_snd_iff.2 hsame]
        rfl

theorem writeAll_fst_of_changes (h : markup.changes as = 0) : (markup.writeAll as).1 = markup := by
  induction as with
  | nil => rfl
  | cons a as ih =>
      obtain ⟨hfirst, hrest⟩ := Nat.add_eq_zero_iff.1 h
      have hsame : (markup.write a).1 = markup := by
        split at hfirst
        · assumption
        · cases hfirst
      rw [hsame] at hrest
      rw [writeAll_cons_fst, hsame, ih hrest]

/-! ## Knowing more -/

/-- What is known in the one markup is known in the other one, too. -/
structure Extends (later earlier : Markup) : Prop where
  length : later.length = earlier.length
  keeps : ∀ pos c, earlier.categoryAt? pos = some c → later.categoryAt? pos = some c

theorem Extends.refl (markup : Markup) : markup.Extends markup :=
  ⟨rfl, fun _ _ h => h⟩

theorem Extends.trans {third : Markup} (h : third.Extends other) (h' : other.Extends markup) :
    third.Extends markup :=
  ⟨h.length.trans h'.length, fun pos c hc => h.keeps pos c (h'.keeps pos c hc)⟩

theorem Extends.antisymm (h : other.Extends markup) (h' : markup.Extends other) : other = markup := by
  refine ext_categoryAt? h.length fun pos _ => ?_
  cases hc : markup.categoryAt? pos with
  | some c => exact h.keeps pos c hc
  | none =>
      cases hother : other.categoryAt? pos with
      | none => rfl
      | some c =>
          rw [h'.keeps pos c hother] at hc
          cases hc

theorem extends_write (h : a.policy ≠ .replace) : (markup.write a).1.Extends markup :=
  ⟨length_write .., fun _ _ hc => categoryAt?_write_of_some hc fun hr => h hr.1⟩

theorem extends_writeAll (h : ∀ a ∈ as, a.policy ≠ .replace) :
    (markup.writeAll as).1.Extends markup := by
  induction as generalizing markup with
  | nil => exact .refl markup
  | cons a as ih =>
      obtain ⟨ha, has⟩ := List.forall_mem_cons.1 h
      exact (ih has).trans (extends_write ha)

/-- Where nothing is replaced, no change is undone: a markup that is as before was never another one. -/
theorem changes_eq_zero_iff (h : ∀ a ∈ as, a.policy ≠ .replace) :
    markup.changes as = 0 ↔ (markup.writeAll as).1 = markup := by
  refine ⟨writeAll_fst_of_changes, fun hsame => ?_⟩
  induction as with
  | nil => rfl
  | cons a as ih =>
      obtain ⟨ha, has⟩ := List.forall_mem_cons.1 h
      rw [writeAll_cons_fst] at hsame
      -- what the first write adds is still there at the end, so it adds nothing
      have hfirst : (markup.write a).1 = markup := by
        have hlater : ((markup.write a).1.writeAll as).1.Extends (markup.write a).1 :=
          extends_writeAll has
        rw [hsame] at hlater
        exact (extends_write ha).antisymm hlater
      rw [hfirst] at hsame
      rw [changes, hfirst, if_pos rfl, ih has hsame]

end Markup

namespace RuleSet

theorem policy_of_mem_assignments {set : RuleSet} {text : Text} {a : Assignment}
    (h : ∀ rule ∈ set.rules, ∀ h ∈ rule.highlights, h.policy ≠ .replace)
    (ha : a ∈ set.assignments text) : a.policy ≠ .replace := by
  obtain ⟨rule, hrule, _, _, highlight, hhighlight, _, _, rfl⟩ := mem_assignments.1 ha
  exact h rule hrule highlight hhighlight

/-- A write changes what its policy lets it change, and says so exactly if it changed something. Rules
report the number of writes that changed something. If it is 0, all is as before; without replacing
highlights it is 0 exactly then. -/
theorem changes_reported (markup : Markup) (start stop : Nat) (category : Category) (policy : Policy)
    (set : RuleSet) (text : Text) :
    Markup.Assigned markup (markup.assign start stop category policy).1
      ⟨start, stop, category, policy⟩ ∧
    ((markup.assign start stop category policy).2 = true ↔
      (markup.assign start stop category policy).1 ≠ markup) ∧
    (set.apply text markup).2 = markup.changes (set.assignments text) ∧
    ((set.apply text markup).2 = 0 → (set.apply text markup).1 = markup) ∧
    ((∀ rule ∈ set.rules, ∀ h ∈ rule.highlights, h.policy ≠ .replace) →
      ((set.apply text markup).2 = 0 ↔ (set.apply text markup).1 = markup)) := by
  have hwrite := Markup.assigned_write markup ⟨start, stop, category, policy⟩
  have hcount : (set.apply text markup).2 = markup.changes (set.assignments text) :=
    Markup.writeAll_snd ..
  refine ⟨hwrite, Markup.write_snd_iff (a := ⟨start, stop, category, policy⟩), hcount,
    fun hzero => ?_, fun hpolicy => ?_⟩
  · exact Markup.writeAll_fst_of_changes (hcount ▸ hzero)
  · rw [hcount]
    exact Markup.changes_eq_zero_iff fun a => policy_of_mem_assignments hpolicy

/-- Digits in a string that was marked only in part, and in one that was marked to its end. -/
theorem changes_reported_digits :
    let set : RuleSet :=
      ⟨[⟨"number", .plus (.char .digit), [{ group := 0, category := .constant, policy := .keep }]⟩]⟩
    let part : Markup := ⟨[none, some .string, none]⟩
    let full : Markup := ⟨[none, some .string, some .constant]⟩
    (∀ rule ∈ set.rules, ∀ h ∈ rule.highlights, h.policy ≠ .replace) ∧
      (set.apply "a12".toList part).2 ≠ 0 ∧
      (set.apply "a12".toList full).2 = 0 ∧ (set.apply "a12".toList full).1 = full ∧
      (part.assign 1 9 .keyword .skip).1 = part := by
  intro set part full
  have hpolicy : ∀ rule ∈ set.rules, ∀ h ∈ rule.highlights, h.policy ≠ .replace := by decide
  obtain ⟨hwrite, _, _, _, hpart⟩ := changes_reported part 1 9 .keyword .skip set "a12".toList
  obtain ⟨_, _, _, hunchanged, _⟩ := changes_reported full 1 9 .keyword .skip set "a12".toList
  have hfull : (set.apply "a12".toList full).2 = 0 := by decide +kernel
  refine ⟨hpolicy, fun hzero => ?_, hfull, hunchanged hfull, ?_⟩
  · exact absurd ((hpart hpolicy).1 hzero) (by decide +kernel)
  · exact hwrite.taken rfl ⟨1, by decide, by decide⟩

/-- Replacing writes may undo each other: both report a change, and nothing has changed in all. -/
example :
    let set : RuleSet :=
      ⟨[⟨"word", .char .word, [⟨0, .keyword, .replace, false⟩, ⟨0, .constant, .replace, false⟩]⟩]⟩
    set.apply "x".toList ⟨[some .constant]⟩ = (⟨[some .constant]⟩, 2) := by
  decide +kernel

end RuleSet

end Highlighter
