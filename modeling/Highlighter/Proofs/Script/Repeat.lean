import Highlighter.Proofs.Markup.Repeat
import Highlighter.Proofs.Script.Layers

/-! Running rules twice changes nothing, and those for scripts do not even write anything twice. -/
namespace Highlighter

/-- Replacing highlights that meet on a byte have one category. -/
theorem RuleSet.agree_assignments {set : RuleSet} {text : Text}
    (h : ∀ pos, ∀ entry ∈ set.replacing, ∀ other ∈ set.replacing,
      set.InGroup entry.1 entry.2.1 text pos → set.InGroup other.1 other.2.1 text pos →
      entry.2.2 = other.2.2) :
    Markup.Agree (set.assignments text) := by
  intro a ha b hb pos hra hrb
  obtain ⟨entry, hentry, hcategory, hin⟩ := exists_replacing ha hra
  obtain ⟨other, hother, hcategory', hin'⟩ := exists_replacing hb hrb
  rw [← hcategory, ← hcategory']
  exact h pos entry hentry other hother hin hin'

namespace Script

theorem category_of_replacing_level (level : Level) :
    ∀ entry ∈ level.rules.replacing, entry.2.2 = .typeName := by
  cases level <;> decide

theorem agree_ecmaScript (level : Level) (text : Text) :
    Markup.Agree ((ecmaScript level).rules.assignments text) := by
  refine RuleSet.agree_assignments fun pos entry hentry other hother _ _ => ?_
  rw [category_of_replacing_level level entry hentry, category_of_replacing_level level other hother]

theorem distinct_actionScriptOn (base : Level) : (actionScriptOn base).rules.Distinct := by
  cases base <;> decide

theorem replacing_actionScriptOn (base : Level) :
    (actionScriptOn base).rules.replacing =
      [("function_declaration", 2, .keyword), ("function_declaration", 4, .typeName)] := by
  cases base <;> decide

theorem agree_actionScriptOn (base : Level) (text : Text) :
    Markup.Agree ((actionScriptOn base).rules.assignments text) := by
  have hapart : ∀ {pos i j : Nat}, i ≠ 0 → j ≠ 0 →
      (actionScriptOn base).rules.InGroup "function_declaration" i text pos →
      (actionScriptOn base).rules.InGroup "function_declaration" j text pos → i = j := by
    intro pos i j hi hj h h'
    exact h.eq_of_isFlat (distinct_actionScriptOn base) (by cases base <;> decide) hi hj h'
  refine RuleSet.agree_assignments fun pos entry hentry other hother hin hin' => ?_
  rw [replacing_actionScriptOn] at hentry hother
  simp only [List.mem_cons, List.not_mem_nil, or_false] at hentry hother
  -- an accessor word is no part of a return type, so only the same highlights meet
  rcases hentry with rfl | rfl <;> rcases hother with rfl | rfl
  · rfl
  · exact absurd (hapart (by decide) (by decide) hin hin') (by decide)
  · exact absurd (hapart (by decide) (by decide) hin hin') (by decide)
  · rfl

/-- Rules leave what they have left behind as it is. Those for scripts find nothing more to write;
others may, where they write two categories over one byte in turn. -/
theorem apply_idempotent (set : RuleSet) (text : Text) (markup : Markup) (level base : Level) :
    (set.apply text (set.apply text markup).1).1 = (set.apply text markup).1 ∧
    ((ecmaScript level).rules.apply text ((ecmaScript level).rules.apply text markup).1).2 = 0 ∧
    ((actionScriptOn base).rules.apply text
      ((actionScriptOn base).rules.apply text markup).1).2 = 0 :=
  ⟨Markup.writeAll_writeAll markup (set.assignments text),
    congrArg Prod.snd (Markup.writeAll_writeAll_of_agree (agree_ecmaScript level text)),
    congrArg Prod.snd (Markup.writeAll_writeAll_of_agree (agree_actionScriptOn base text))⟩

end Script

end Highlighter
