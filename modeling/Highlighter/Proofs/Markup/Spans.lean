import Highlighter.Markup
import Highlighter.Proofs.List

/-!
The spans of a markup show the same category at every byte as its slots. They are the longest runs:
in order, not empty, and of two that touch each other the categories differ.
-/
namespace Highlighter

namespace Span

@[simp] theorem categoryAt?_nil (pos : Nat) : categoryAt? [] pos = none := rfl

theorem categoryAt?_cons (span : Span) (spans : List Span) (pos : Nat) :
    categoryAt? (span :: spans) pos =
      if span.start ≤ pos ∧ pos < span.stop then some span.category else categoryAt? spans pos := by
  simp only [categoryAt?, List.find?_cons, contains]
  by_cases h : span.start ≤ pos ∧ pos < span.stop
  · simp [h]
  · rw [if_neg h]
    rw [show (decide (span.start ≤ pos) && decide (pos < span.stop)) = false by simpa using h]

theorem categoryAt?_eq_none {spans : List Span} {pos : Nat} (h : ∀ span ∈ spans, pos < span.start) :
    categoryAt? spans pos = none := by
  rw [categoryAt?, List.find?_eq_none.2, Option.map_none]
  intro span hspan hcontains
  have := h span hspan
  rw [contains_iff] at hcontains
  omega

theorem exists_of_categoryAt? {spans : List Span} {pos : Nat} {c : Category}
    (h : categoryAt? spans pos = some c) :
    ∃ span ∈ spans, span.category = c ∧ span.contains pos = true := by
  obtain ⟨span, hfind, rfl⟩ := Option.map_eq_some_iff.1 h
  have hcontains := List.find?_some hfind
  exact ⟨span, List.mem_of_find?_eq_some hfind, rfl, hcontains⟩

/-- Of spans that lie one after the other, at most one holds a byte. -/
theorem eq_of_contains {spans : List Span} {pos : Nat} {a b : Span}
    (hspans : spans.Pairwise fun a b => a.stop ≤ b.start) (ha : a ∈ spans) (hb : b ∈ spans)
    (hpa : a.contains pos = true) (hpb : b.contains pos = true) : a = b := by
  rw [contains_iff] at hpa hpb
  rcases pairwise_cases hspans ha hb with rfl | hlt | hlt
  · rfl
  · omega
  · omega

theorem categoryAt?_of_contains {spans : List Span} {pos : Nat} {span : Span}
    (hspans : spans.Pairwise fun a b => a.stop ≤ b.start) (hspan : span ∈ spans)
    (hcontains : span.contains pos = true) : categoryAt? spans pos = some span.category := by
  obtain ⟨found, hfind⟩ : ∃ found, spans.find? (fun s => s.contains pos) = some found :=
    Option.isSome_iff_exists.1 (List.find?_isSome.2 ⟨span, hspan, hcontains⟩)
  have hfound := List.find?_some hfind
  rw [categoryAt?, hfind, Option.map_some,
    eq_of_contains hspans (List.mem_of_find?_eq_some hfind) hspan hfound hcontains]

/-- One span ends before another one begins, and their runs do not belong together. -/
def Apart (a b : Span) : Prop :=
  a.stop < b.start ∨ a.stop = b.start ∧ a.category ≠ b.category

theorem Apart.le {a b : Span} (h : a.Apart b) : a.stop ≤ b.start := by
  rcases h with h | h
  · exact Nat.le_of_lt h
  · exact Nat.le_of_eq h.1

end Span

namespace Markup

theorem le_start_of_mem_runs {slots : List Slot} {pos : Nat} {span : Span}
    (h : span ∈ runs pos slots) : pos ≤ span.start ∧ span.start < span.stop := by
  induction slots generalizing pos span with
  | nil => simp [runs] at h
  | cons slot slots ih =>
      cases slot with
      | none =>
          have := ih (by simpa only [runs] using h)
          omega
      | some c =>
          simp only [runs] at h
          split at h
          · rename_i head tail heq
            have hmem : ∀ s ∈ head :: tail, pos + 1 ≤ s.start ∧ s.start < s.stop := fun s hs =>
              ih (by rwa [heq])
            have hhead := hmem head (by simp)
            split at h
            · rcases List.mem_cons.1 h with rfl | h
              · simp only
                omega
              · have := hmem span (by simp [h])
                omega
            · rcases List.mem_cons.1 h with rfl | h
              · simp
              · have := hmem span h
                omega
          · obtain rfl := List.mem_singleton.1 h
            simp

theorem categoryAt?_runs_of_lt {slots : List Slot} {pos n : Nat} (h : n < pos) :
    Span.categoryAt? (runs pos slots) n = none := by
  refine Span.categoryAt?_eq_none fun span hspan => ?_
  have := le_start_of_mem_runs hspan
  omega

theorem categoryAt?_runs (slots : List Slot) (pos n : Nat) :
    Span.categoryAt? (runs pos slots) (pos + n) = slots[n]?.join := by
  induction slots generalizing pos n with
  | nil => simp [runs]
  | cons slot slots ih =>
      -- the runs of the other slots, at the byte that is asked for
      have hrest : Span.categoryAt? (runs (pos + 1) slots) (pos + n) =
          if n = 0 then none else slots[n - 1]?.join := by
        split
        · exact categoryAt?_runs_of_lt (by omega)
        · rw [show pos + n = pos + 1 + (n - 1) by omega, ih]
      cases slot with
      | none =>
          rw [runs, hrest]
          cases n <;> simp
      | some c =>
          have hone : Span.categoryAt? (⟨pos, pos + 1, c⟩ :: runs (pos + 1) slots) (pos + n) =
              (some c :: slots)[n]?.join := by
            rw [Span.categoryAt?_cons, hrest]
            cases n with
            | zero => simp
            | succ n => simp
          simp only [runs]
          split
          · rename_i head tail heq
            have hhead := le_start_of_mem_runs (show head ∈ runs (pos + 1) slots by simp [heq])
            split
            · rename_i hjoin
              -- the first run goes on with the same category, so one span shows both
              rw [← hone, heq, Span.categoryAt?_cons, Span.categoryAt?_cons, Span.categoryAt?_cons]
              simp only [hjoin.1, hjoin.2]
              by_cases h₁ : pos + n < pos + 1
              · rw [if_pos (by omega), if_pos (by omega)]
              · by_cases h₂ : pos + n < head.stop
                · rw [if_pos (by omega), if_neg (by omega), if_pos (by omega)]
                · rw [if_neg (by omega), if_neg (by omega), if_neg (by omega)]
            · rw [← heq]
              exact hone
          · rename_i heq
            rw [← heq]
            exact hone

/-- Spans and slots agree on the category of every byte. -/
theorem categoryAt?_spans (markup : Markup) (pos : Nat) :
    Span.categoryAt? markup.spans pos = markup.categoryAt? pos := by
  simpa [spans, categoryAt?] using categoryAt?_runs markup.slots 0 pos

theorem stop_le_of_mem_runs {slots : List Slot} {pos : Nat} {span : Span}
    (h : span ∈ runs pos slots) : span.stop ≤ pos + slots.length := by
  induction slots generalizing pos span with
  | nil => simp [runs] at h
  | cons slot slots ih =>
      have hrest : ∀ s ∈ runs (pos + 1) slots, s.stop ≤ pos + (slot :: slots).length := by
        intro s hs
        have := ih hs
        rw [List.length_cons]
        omega
      cases slot with
      | none => exact hrest span (by simpa only [runs] using h)
      | some c =>
          simp only [runs] at h
          split at h
          · rename_i head tail heq
            rw [heq] at hrest
            split at h
            · rcases List.mem_cons.1 h with rfl | h
              · exact hrest head (by simp)
              · exact hrest span (by simp [h])
            · rcases List.mem_cons.1 h with rfl | h
              · simp only [List.length_cons]
                omega
              · exact hrest span h
          · obtain rfl := List.mem_singleton.1 h
            simp only [List.length_cons]
            omega

theorem pairwise_runs (slots : List Slot) (pos : Nat) : (runs pos slots).Pairwise Span.Apart := by
  induction slots generalizing pos with
  | nil => exact .nil
  | cons slot slots ih =>
      have hrest := ih (pos + 1)
      cases slot with
      | none => simpa only [runs] using hrest
      | some c =>
          simp only [runs]
          split
          · rename_i head tail heq
            rw [heq] at hrest
            obtain ⟨hhead, htail⟩ := List.pairwise_cons.1 hrest
            have hstart := le_start_of_mem_runs (show head ∈ runs (pos + 1) slots by simp [heq])
            split
            · exact List.pairwise_cons.2 ⟨hhead, htail⟩
            · -- the first byte is a run of its own, and so the next one is of another category
              rename_i hjoin
              refine List.pairwise_cons.2 ⟨List.forall_mem_cons.2 ⟨?_, fun span hspan => ?_⟩, hrest⟩
              · by_cases htouch : head.start = pos + 1
                · exact .inr ⟨htouch.symm, fun hc => hjoin ⟨htouch, hc.symm⟩⟩
                · exact .inl (show pos + 1 < head.start by omega)
              · have := (hhead span hspan).le
                exact .inl (show pos + 1 < span.start by omega)
          · exact List.pairwise_singleton ..

variable {markup : Markup} {span : Span}

theorem pairwise_spans (markup : Markup) : markup.spans.Pairwise Span.Apart :=
  pairwise_runs markup.slots 0

theorem spans_within (h : span ∈ markup.spans) :
    span.start < span.stop ∧ span.stop ≤ markup.length := by
  have hstop := stop_le_of_mem_runs h
  rw [Nat.zero_add] at hstop
  exact ⟨(le_start_of_mem_runs h).2, hstop⟩

theorem categoryAt?_of_mem_spans {pos : Nat} (h : span ∈ markup.spans)
    (hcontains : span.contains pos = true) : markup.categoryAt? pos = some span.category := by
  rw [← categoryAt?_spans]
  exact Span.categoryAt?_of_contains (markup.pairwise_spans.imp Span.Apart.le) h hcontains

/-- A byte in or next to a run that has the run's category is in the run. -/
theorem contains_of_categoryAt? {pos : Nat} (h : span ∈ markup.spans) (hstart : span.start ≤ pos + 1)
    (hstop : pos ≤ span.stop) (hsame : markup.categoryAt? pos = some span.category) :
    span.contains pos = true := by
  rw [← categoryAt?_spans] at hsame
  obtain ⟨other, hother, hcategory, hcontains⟩ := Span.exists_of_categoryAt? hsame
  have hwithin := Span.contains_iff.1 hcontains
  rcases pairwise_cases markup.pairwise_spans h hother with rfl | hapart | hapart
  · exact hcontains
  · rcases hapart with hlt | ⟨_, hne⟩
    · omega
    · exact absurd hcategory.symm hne
  · rcases hapart with hlt | ⟨_, hne⟩
    · omega
    · exact absurd hcategory hne

/-- A run does not go on behind its end. -/
theorem categoryAt?_stop_ne (h : span ∈ markup.spans) :
    markup.categoryAt? span.stop ≠ some span.category := by
  intro hsame
  have hspan := (spans_within h).1
  have hcontains := contains_of_categoryAt? h (by omega) (Nat.le_refl _) hsame
  rw [Span.contains_iff] at hcontains
  omega

/-- A run has not begun before its start. -/
theorem categoryAt?_pred_start_ne (h : span ∈ markup.spans) (hpos : 0 < span.start) :
    markup.categoryAt? (span.start - 1) ≠ some span.category := by
  intro hsame
  have hspan := (spans_within h).1
  have hcontains := contains_of_categoryAt? h (by omega) (by omega) hsame
  rw [Span.contains_iff] at hcontains
  omega

end Markup

namespace Span

theorem categoryAt?_of_lt {a : Span} {spans : List Span} {pos : Nat}
    (h : (a :: spans).Pairwise Apart) (hpos : pos < a.stop) : categoryAt? spans pos = none := by
  refine categoryAt?_eq_none fun b hb => ?_
  have := ((List.pairwise_cons.1 h).1 b hb).le
  omega

/-- A first span begins where the first category is shown. -/
theorem start_le_of_categoryAt? {a : Span} {spans : List Span} {pos : Nat} {c : Category}
    (h : (a :: spans).Pairwise Apart) (hne : a.start < a.stop)
    (hpos : categoryAt? (a :: spans) pos = some c) : a.start ≤ pos := by
  obtain ⟨b, hb, -, hcontains⟩ := exists_of_categoryAt? hpos
  rw [contains_iff] at hcontains
  rcases List.mem_cons.1 hb with rfl | hb
  · exact hcontains.1
  · have := ((List.pairwise_cons.1 h).1 b hb).le
    omega

theorem categoryAt?_start {a : Span} {spans : List Span} (hne : a.start < a.stop) :
    categoryAt? (a :: spans) a.start = some a.category := by
  rw [categoryAt?_cons, if_pos ⟨Nat.le_refl _, hne⟩]

/-- Behind its end a first span's category is not shown. -/
theorem categoryAt?_stop {a : Span} {spans : List Span} (h : (a :: spans).Pairwise Apart) :
    categoryAt? (a :: spans) a.stop ≠ some a.category := by
  intro hsame
  rw [categoryAt?_cons, if_neg (by omega)] at hsame
  obtain ⟨b, hb, hcategory, hcontains⟩ := exists_of_categoryAt? hsame
  rw [contains_iff] at hcontains
  rcases (List.pairwise_cons.1 h).1 b hb with hlt | ⟨-, hother⟩
  · omega
  · exact hother hcategory.symm

theorem stop_le_of_agree {a b : Span} {as bs : List Span} (ha : (a :: as).Pairwise Apart)
    (hstart : a.start = b.start) (hne : a.start < a.stop) (hcategory : a.category = b.category)
    (h : ∀ pos, categoryAt? (a :: as) pos = categoryAt? (b :: bs) pos) : b.stop ≤ a.stop := by
  refine Nat.le_of_not_lt fun hlt => categoryAt?_stop ha ?_
  rw [h, categoryAt?_cons, if_pos ⟨by omega, hlt⟩, hcategory]

/-- Longest runs are known by what they show. -/
theorem eq_of_categoryAt? {as bs : List Span} (ha : as.Pairwise Apart) (hb : bs.Pairwise Apart)
    (hane : ∀ a ∈ as, a.start < a.stop) (hbne : ∀ b ∈ bs, b.start < b.stop)
    (h : ∀ pos, categoryAt? as pos = categoryAt? bs pos) : as = bs := by
  induction as generalizing bs with
  | nil =>
      cases bs with
      | nil => rfl
      | cons b bs =>
          have hshown := (h b.start).trans (categoryAt?_start (hbne b List.mem_cons_self))
          cases hshown
  | cons a as ih =>
      cases bs with
      | nil =>
          have hshown := (h a.start).symm.trans (categoryAt?_start (hane a List.mem_cons_self))
          cases hshown
      | cons b bs =>
          obtain ⟨hafirst, harest⟩ := List.forall_mem_cons.1 hane
          obtain ⟨hbfirst, hbrest⟩ := List.forall_mem_cons.1 hbne
          have hashown := (h a.start).symm.trans (categoryAt?_start hafirst)
          have hbshown := (h b.start).trans (categoryAt?_start hbfirst)
          have hstart : a.start = b.start :=
            Nat.le_antisymm (start_le_of_categoryAt? ha hafirst hbshown)
              (start_le_of_categoryAt? hb hbfirst hashown)
          have hcategory : a.category = b.category := by
            rw [hstart, categoryAt?_start hbfirst] at hashown
            exact (Option.some.inj hashown).symm
          have hstop : a.stop = b.stop :=
            Nat.le_antisymm
              (stop_le_of_agree hb hstart.symm hbfirst hcategory.symm fun pos => (h pos).symm)
              (stop_le_of_agree ha hstart hafirst hcategory h)
          have heq : a = b := by
            cases a
            cases b
            simp_all
          subst heq
          rw [ih (List.pairwise_cons.1 ha).2 (List.pairwise_cons.1 hb).2 harest hbrest fun pos => ?_]
          by_cases hpos : pos < a.stop
          · rw [categoryAt?_of_lt ha hpos, categoryAt?_of_lt hb hpos]
          · have hall := h pos
            rwa [categoryAt?_cons, categoryAt?_cons, if_neg (by omega), if_neg (by omega)] at hall

end Span

end Highlighter
