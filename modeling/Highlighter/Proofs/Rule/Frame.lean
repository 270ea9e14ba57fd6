import Highlighter.Engine
import Highlighter.Proofs.Markup.Spans
import Highlighter.Proofs.Markup.Write
import Highlighter.Proofs.Pattern.Search

/-!
What a set of rules can change on a line: the bytes of the groups that its highlights are about, and
of the bytes that have a category only those of replacing highlights.
-/
namespace Highlighter

/-- The byte lies in a group of a match of the rule. -/
def Rule.InGroup (rule : Rule) (group : Nat) (text : Text) (pos : Nat) : Prop :=
  ∃ m ∈ rule.pattern.findAll text, ∃ range, m.group? group = some range ∧ range.1 ≤ pos ∧ pos < range.2

/-- Some highlight is about the byte. -/
def RuleSet.Marks (set : RuleSet) (text : Text) (pos : Nat) : Prop :=
  ∃ rule ∈ set.rules, ∃ h ∈ rule.highlights, rule.InGroup h.group text pos

/-- Some replacing highlight is about the byte. -/
def RuleSet.Overwrites (set : RuleSet) (text : Text) (pos : Nat) : Prop :=
  ∃ rule ∈ set.rules, ∃ h ∈ rule.highlights, h.policy = .replace ∧ rule.InGroup h.group text pos

def RuleSet.InGroup (set : RuleSet) (name : String) (group : Nat) (text : Text) (pos : Nat) : Prop :=
  ∃ rule ∈ set.rules, rule.name = name ∧ rule.InGroup group text pos

instance (rule : Rule) (group : Nat) (text : Text) (pos : Nat) :
    Decidable (rule.InGroup group text pos) :=
  decidable_of_iff
    (∃ m ∈ rule.pattern.findAll text,
      (m.group? group).any (fun range => decide (range.1 ≤ pos ∧ pos < range.2)) = true)
    (by simp [Rule.InGroup, Option.any_eq_true])

instance (set : RuleSet) (text : Text) (pos : Nat) : Decidable (set.Marks text pos) :=
  inferInstanceAs (Decidable (∃ rule ∈ set.rules, ∃ h ∈ rule.highlights, _))

instance (set : RuleSet) (text : Text) (pos : Nat) : Decidable (set.Overwrites text pos) :=
  inferInstanceAs (Decidable (∃ rule ∈ set.rules, ∃ h ∈ rule.highlights, _ ∧ _))

instance (set : RuleSet) (name : String) (group : Nat) (text : Text) (pos : Nat) :
    Decidable (set.InGroup name group text pos) :=
  inferInstanceAs (Decidable (∃ rule ∈ set.rules, _ ∧ _))

/-- The replacing highlights of a set: the names of their rules, their groups and categories. -/
def RuleSet.replacing (set : RuleSet) : List (String × Nat × Category) :=
  set.rules.flatMap fun rule =>
    (rule.highlights.filter (·.policy = .replace)).map fun h => (rule.name, h.group, h.category)

namespace Rule

variable {rule : Rule} {text : Text} {pos : Nat}

theorem InGroup.lt_byteLength {group : Nat} (h : rule.InGroup group text pos) :
    pos < text.byteLength := by
  obtain ⟨m, hm, range, hg, _, hpos⟩ := h
  have hwithin := Match.group?_within (Pattern.matchAt_of_mem_findAll hm) hg
  have hend := Pattern.offset_le_of_mem_findAll hm
  omega

/-- Two groups of a flat pattern share no byte, also if they belong to two matches. -/
theorem InGroup.eq_of_isFlat (hp : rule.pattern.isFlat = true) {i j : Nat} (hi : i ≠ 0) (hj : j ≠ 0)
    (h : rule.InGroup i text pos) (h' : rule.InGroup j text pos) : i = j := by
  obtain ⟨m, hm, range, hg, hlo, hhi⟩ := h
  obtain ⟨m', hm', range', hg', hlo', hhi'⟩ := h'
  have hat := Pattern.matchAt_of_mem_findAll hm
  by_cases hmm : m = m'
  · subst hmm
    refine Decidable.byContradiction fun hij => ?_
    have := Match.group?_apart hp hat hij hi hj hg hg'
    omega
  · have hwithin := Match.group?_within hat hg
    have hwithin' := Match.group?_within (Pattern.matchAt_of_mem_findAll hm') hg'
    have := Pattern.findAll_apart hm hm' hmm
    omega

end Rule

namespace RuleSet

variable {set : RuleSet} {text : Text} {markup : Markup} {pos : Nat}

theorem mem_assignments {a : Assignment} :
    a ∈ set.assignments text ↔ ∃ rule ∈ set.rules, ∃ m ∈ rule.pattern.findAll text,
      ∃ h ∈ rule.highlights, ∃ range, m.group? h.group = some range ∧
        a = ⟨range.1, range.2, h.category, h.policy⟩ := by
  simp only [assignments, Rule.assignments, Rule.assignmentsOf, List.mem_flatMap,
    List.mem_filterMap, Option.map_eq_some_iff]
  constructor
  · rintro ⟨rule, hrule, m, hm, h, hh, range, hg, rfl⟩
    exact ⟨rule, hrule, m, hm, h, hh, range, hg, rfl⟩
  · rintro ⟨rule, hrule, m, hm, h, hh, range, hg, rfl⟩
    exact ⟨rule, hrule, m, hm, h, hh, range, hg, rfl⟩

theorem marks_iff : set.Marks text pos ↔ ∃ a ∈ set.assignments text, a.Covers pos := by
  constructor
  · rintro ⟨rule, hrule, h, hh, m, hm, range, hg, hpos⟩
    exact ⟨_, mem_assignments.2 ⟨rule, hrule, m, hm, h, hh, range, hg, rfl⟩, hpos⟩
  · rintro ⟨a, ha, hcovers⟩
    obtain ⟨rule, hrule, m, hm, h, hh, range, hg, rfl⟩ := mem_assignments.1 ha
    exact ⟨rule, hrule, h, hh, m, hm, range, hg, hcovers⟩

theorem overwrites_iff : set.Overwrites text pos ↔ ∃ a ∈ set.assignments text, a.Replaces pos := by
  constructor
  · rintro ⟨rule, hrule, h, hh, hp, m, hm, range, hg, hpos⟩
    exact ⟨_, mem_assignments.2 ⟨rule, hrule, m, hm, h, hh, range, hg, rfl⟩, hp, hpos⟩
  · rintro ⟨a, ha, hp, hcovers⟩
    obtain ⟨rule, hrule, m, hm, h, hh, range, hg, rfl⟩ := mem_assignments.1 ha
    exact ⟨rule, hrule, h, hh, hp, m, hm, range, hg, hcovers⟩

theorem apply_append (a b : RuleSet) (text : Text) (markup : Markup) :
    (a ++ b).apply text markup =
      ((b.apply text (a.apply text markup).1).1,
        (a.apply text markup).2 + (b.apply text (a.apply text markup).1).2) := by
  rw [apply, assignments_append, Markup.writeAll_append]
  rfl

@[simp] theorem length_apply : (set.apply text markup).1.length = markup.length :=
  Markup.length_writeAll ..

theorem categoryAt?_apply_of_not_marks (h : ¬ set.Marks text pos) :
    (set.apply text markup).1.categoryAt? pos = markup.categoryAt? pos :=
  Markup.categoryAt?_writeAll_of_not_covers fun a ha hc => h (marks_iff.2 ⟨a, ha, hc⟩)

theorem categoryAt?_apply_of_some {c : Category} (h : markup.categoryAt? pos = some c)
    (ho : ¬ set.Overwrites text pos) : (set.apply text markup).1.categoryAt? pos = some c :=
  Markup.categoryAt?_writeAll_of_some h fun a ha hr => ho (overwrites_iff.2 ⟨a, ha, hr⟩)

theorem exists_last_of_overwrites (hpos : pos < markup.length) (ho : set.Overwrites text pos) :
    ∃ before a after, set.assignments text = before ++ a :: after ∧ a.Replaces pos ∧
      (∀ b ∈ after, ¬ b.Replaces pos) ∧ (set.apply text markup).1.categoryAt? pos = some a.category := by
  obtain ⟨before, a, after, heq, ha, hafter⟩ := Markup.exists_last_replaces (overwrites_iff.1 ho)
  refine ⟨before, a, after, heq, ha, hafter, ?_⟩
  rw [apply, heq]
  exact Markup.categoryAt?_writeAll_of_last hpos ha hafter

theorem mem_replacing {entry : String × Nat × Category} :
    entry ∈ set.replacing ↔ ∃ rule ∈ set.rules, ∃ h ∈ rule.highlights, h.policy = .replace ∧
      entry = (rule.name, h.group, h.category) := by
  simp only [replacing, List.mem_flatMap, List.mem_map, List.mem_filter, decide_eq_true_eq]
  constructor
  · rintro ⟨rule, hrule, h, ⟨hh, hp⟩, rfl⟩
    exact ⟨rule, hrule, h, hh, hp, rfl⟩
  · rintro ⟨rule, hrule, h, hh, hp, rfl⟩
    exact ⟨rule, hrule, h, ⟨hh, hp⟩, rfl⟩

theorem exists_replacing {a : Assignment} (ha : a ∈ set.assignments text) (hr : a.Replaces pos) :
    ∃ entry ∈ set.replacing, entry.2.2 = a.category ∧ set.InGroup entry.1 entry.2.1 text pos := by
  obtain ⟨rule, hrule, m, hm, h, hh, range, hg, rfl⟩ := mem_assignments.1 ha
  exact ⟨_, mem_replacing.2 ⟨rule, hrule, h, hh, hr.1, rfl⟩, rfl, rule, hrule, rfl, m, hm, range, hg,
    hr.2⟩

def Distinct (set : RuleSet) : Prop := set.rules.Pairwise fun a b => a.name ≠ b.name

instance (set : RuleSet) : Decidable set.Distinct := inferInstanceAs (Decidable (List.Pairwise _ _))

theorem Distinct.eq_of_name (hd : set.Distinct) {r r' : Rule} (hr : r ∈ set.rules)
    (hr' : r' ∈ set.rules) (hname : r.name = r'.name) : r = r' := by
  rcases pairwise_cases hd hr hr' with heq | hne | hne
  · exact heq
  · exact absurd hname hne
  · exact absurd hname.symm hne

theorem InGroup.lt_byteLength {name : String} {group : Nat} (h : set.InGroup name group text pos) :
    pos < text.byteLength := by
  obtain ⟨_, _, _, hin⟩ := h
  exact hin.lt_byteLength

/-- Two groups of a flat rule of a set share no byte. -/
theorem InGroup.eq_of_isFlat (hd : set.Distinct) {name : String}
    (hflat : ∀ rule ∈ set.rules, rule.name = name → rule.pattern.isFlat = true) {i j : Nat}
    (hi : i ≠ 0) (hj : j ≠ 0) (h : set.InGroup name i text pos) (h' : set.InGroup name j text pos) :
    i = j := by
  obtain ⟨rule, hrule, hname, hin⟩ := h
  obtain ⟨rule', hrule', hname', hin'⟩ := h'
  obtain rfl := hd.eq_of_name hrule hrule' (hname.trans hname'.symm)
  exact hin.eq_of_isFlat (hflat rule hrule hname) hi hj hin'

theorem overwrites_iff_inGroup (hd : set.Distinct) :
    set.Overwrites text pos ↔ ∃ entry ∈ set.replacing, set.InGroup entry.1 entry.2.1 text pos := by
  constructor
  · rintro ⟨rule, hrule, h, hh, hp, hin⟩
    exact ⟨_, mem_replacing.2 ⟨rule, hrule, h, hh, hp, rfl⟩, rule, hrule, rfl, hin⟩
  · rintro ⟨entry, hentry, rule, hrule, hname, hin⟩
    obtain ⟨rule', hrule', h, hh, hp, rfl⟩ := mem_replacing.1 hentry
    obtain rfl := hd.eq_of_name hrule hrule' hname
    exact ⟨rule, hrule, h, hh, hp, hin⟩

theorem categoryAt?_apply_of_overwrites {c : Category} (hpos : pos < markup.length)
    (ho : set.Overwrites text pos)
    (hall : ∀ entry ∈ set.replacing, set.InGroup entry.1 entry.2.1 text pos → entry.2.2 = c) :
    (set.apply text markup).1.categoryAt? pos = some c := by
  refine Markup.categoryAt?_writeAll_of_replaces hpos (overwrites_iff.1 ho) fun a ha hr => ?_
  obtain ⟨entry, hentry, hcategory, hin⟩ := exists_replacing ha hr
  rw [← hcategory]
  exact hall entry hentry hin

/-- A category that no replacing highlight writes stays exactly where none is about the byte. -/
theorem categoryAt?_apply_eq_some_iff {c : Category} (h : markup.categoryAt? pos = some c)
    (hne : ∀ entry ∈ set.replacing, entry.2.2 ≠ c) :
    (set.apply text markup).1.categoryAt? pos = some c ↔ ¬ set.Overwrites text pos := by
  constructor
  · intro hkept ho
    have hpos := Markup.lt_length_of_categoryAt? h
    obtain ⟨before, a, after, heq, hr, _, hlast⟩ := exists_last_of_overwrites hpos ho
    have ha : a ∈ set.assignments text := by simp [heq]
    obtain ⟨entry, hentry, hcategory, _⟩ := exists_replacing ha hr
    rw [hkept, Option.some.injEq] at hlast
    exact hne entry hentry (hcategory.trans hlast.symm)
  · exact categoryAt?_apply_of_some h

theorem overwrites_append {a b : RuleSet} :
    (a ++ b).Overwrites text pos ↔ a.Overwrites text pos ∨ b.Overwrites text pos := by
  constructor
  · rintro ⟨rule, hrule, hrest⟩
    rcases List.mem_append.1 hrule with hrule | hrule
    · exact .inl ⟨rule, hrule, hrest⟩
    · exact .inr ⟨rule, hrule, hrest⟩
  · rintro (⟨rule, hrule, hrest⟩ | ⟨rule, hrule, hrest⟩)
    · exact ⟨rule, List.mem_append_left _ hrule, hrest⟩
    · exact ⟨rule, List.mem_append_right _ hrule, hrest⟩

theorem not_overwrites_of_replacing (h : set.replacing = []) : ¬ set.Overwrites text pos := by
  rintro ⟨rule, hrule, highlight, hh, hp, _⟩
  have hmem := mem_replacing.2 ⟨rule, hrule, highlight, hh, hp, rfl⟩
  rw [h] at hmem
  exact List.not_mem_nil hmem

end RuleSet

namespace Engine

/-- The category that a highlighted line shows at a byte. -/
def shown (engine : Engine) (text : Text) (state : LineState) (pos : Nat) : Option Category :=
  Span.categoryAt? (engine.highlightLine text state).spans pos

/-- What is known about a line before the rules run. -/
def scanned (engine : Engine) (text : Text) (state : LineState) : Markup :=
  ((Markup.blank text.byteLength).scan engine.constructs text state).1

def marked (engine : Engine) (text : Text) (state : LineState) : Markup :=
  (engine.rules.apply text (engine.scanned text state)).1

theorem shown_eq (engine : Engine) (text : Text) (state : LineState) (pos : Nat) :
    engine.shown text state pos = (engine.marked text state).categoryAt? pos :=
  Markup.categoryAt?_spans ..

@[simp] theorem length_scanned (engine : Engine) (text : Text) (state : LineState) :
    (engine.scanned text state).length = text.byteLength := by
  simp [scanned, Markup.scan]

@[simp] theorem length_marked (engine : Engine) (text : Text) (state : LineState) :
    (engine.marked text state).length = text.byteLength := by
  rw [marked, RuleSet.length_apply, length_scanned]

/-- More rules go on from what the fewer ones left behind. -/
theorem marked_append {engine more : Engine} {added : RuleSet}
    (hconstructs : more.constructs = engine.constructs) (hrules : more.rules = engine.rules ++ added)
    (text : Text) (state : LineState) :
    more.marked text state = (added.apply text (engine.marked text state)).1 := by
  rw [marked, hrules, RuleSet.apply_append, scanned, hconstructs]
  rfl

end Engine

end Highlighter
