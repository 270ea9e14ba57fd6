import Highlighter.Proofs.Pattern.Search
import Highlighter.Script.ActionScript

/-!
How sets of rules come about. Only valid rules get into a set, whatever is done and whatever fails on
the way, and a set holds what was added to it, in this order. A group that a rule of a set is about is
always one that its pattern has: where it is missing, it took no part in the match.
-/
namespace Highlighter

/-! ## Groups of a match -/

/-- The group took part in the match; group 0 is the match itself. -/
def Match.TookPart (m : Match) (index : Nat) : Prop :=
  index = 0 ∨ ∃ cap ∈ m.captures, cap.index = index

theorem Match.group?_eq_none_iff {m : Match} {index : Nat} :
    m.group? index = none ↔ ¬ m.TookPart index := by
  rw [group?, TookPart]
  split
  · simp [*]
  · simp [*, List.find?_eq_none]

/-- Only groups that a pattern has take part in its matches. -/
theorem Match.TookPart.le_groupCount {p : Pattern} {text : Text} {m : Match}
    (hm : m ∈ p.findAll text) {index : Nat} (h : m.TookPart index) : index ≤ p.groupCount := by
  rcases h with rfl | ⟨cap, hcap, rfl⟩
  · exact Nat.zero_le _
  · exact index_le_groupCount (Pattern.matchAt_of_mem_findAll hm) cap hcap

/-! ## Valid rules -/

namespace Rule

/-- Every highlight is about a group that the pattern has. -/
def Valid (rule : Rule) : Prop := ∀ h ∈ rule.highlights, h.group ≤ rule.groupCount

/-- The highlight is the first one about a group that the pattern does not have. -/
def FirstBad (rule : Rule) (bad : Highlight) : Prop :=
  ∃ before after, rule.highlights = before ++ bad :: after ∧
    (∀ h ∈ before, h.group ≤ rule.groupCount) ∧ rule.groupCount < bad.group

instance (rule : Rule) : Decidable rule.Valid :=
  inferInstanceAs (Decidable (∀ h ∈ rule.highlights, h.group ≤ rule.groupCount))

variable {rule : Rule} {bad : Highlight}

theorem badHighlight?_eq_none_iff : rule.badHighlight? = none ↔ rule.Valid := by
  simp [badHighlight?, Valid]

theorem isValid_iff : rule.isValid = true ↔ rule.Valid := by
  rw [isValid, Option.isNone_iff_eq_none, badHighlight?_eq_none_iff]

theorem badHighlight?_eq_some_iff : rule.badHighlight? = some bad ↔ rule.FirstBad bad := by
  rw [badHighlight?, List.find?_eq_some_iff_append, FirstBad]
  constructor
  · rintro ⟨hbad, before, after, hsplit, hbefore⟩
    exact ⟨before, after, hsplit, by simpa using hbefore, by simpa using hbad⟩
  · rintro ⟨before, after, hsplit, hbefore, hbad⟩
    exact ⟨by simpa using hbad, before, after, hsplit, by simpa using hbefore⟩

theorem exists_firstBad (h : ¬ rule.Valid) : ∃ bad, rule.FirstBad bad := by
  rw [← badHighlight?_eq_none_iff] at h
  obtain ⟨bad, hbad⟩ := Option.ne_none_iff_exists'.1 h
  exact ⟨bad, badHighlight?_eq_some_iff.1 hbad⟩

theorem FirstBad.group?_eq_none (h : rule.FirstBad bad) {text : Text} {m : Match}
    (hm : m ∈ rule.pattern.findAll text) : m.group? bad.group = none := by
  obtain ⟨_, _, _, _, hbad⟩ := h
  rw [Match.group?_eq_none_iff]
  intro htook
  exact Nat.not_lt.2 (htook.le_groupCount hm) hbad

end Rule

namespace RuleSet

variable {set : RuleSet} {rule : Rule} {bad : Highlight}

theorem push_of_valid (h : rule.Valid) : set.push rule = .ok ⟨set.rules ++ [rule]⟩ := by
  rw [push, Rule.badHighlight?_eq_none_iff.2 h]

theorem push_of_firstBad (h : rule.FirstBad bad) :
    set.push rule = .error (.noSuchGroup rule.name bad.group rule.groupCount) := by
  rw [push, Rule.badHighlight?_eq_some_iff.2 h]

theorem get?_eq_some_iff {name : String} :
    set.get? name = some rule ↔ ∃ before after, set.rules = before ++ rule :: after ∧
      rule.name = name ∧ ∀ other ∈ before, other.name ≠ name := by
  rw [get?, List.find?_eq_some_iff_append]
  constructor
  · rintro ⟨hname, before, after, hsplit, hbefore⟩
    exact ⟨before, after, hsplit, by simpa using hname, by simpa using hbefore⟩
  · rintro ⟨before, after, hsplit, hname, hbefore⟩
    exact ⟨by simpa using hname, before, after, hsplit, by simpa using hbefore⟩

/-! ## Building -/

/-- What is done to build sets, which are known by numbers. -/
inductive Step
  /-- A set begins anew, without rules. -/
  | new (target : Nat)
  | copy (target source : Nat)
  | push (target : Nat) (rule : Rule)
  /-- The rules of another set are added to a set. -/
  | extend (target other : Nat)
  /-- A set is made of the rules of two. -/
  | concat (target base additional : Nat)

/-- Sets that are built side by side. -/
abbrev Sets := Nat → RuleSet

namespace Sets

def put (sets : Sets) (target : Nat) (set : RuleSet) : Sets :=
  fun n => if n = target then set else sets n

/-- The sets after a step, and whether it failed. -/
def perform (sets : Sets) : Step → Sets × Except Fault Unit
  | .new target => (sets.put target {}, .ok ())
  | .copy target source => (sets.put target (sets source), .ok ())
  | .push target rule =>
    match (sets target).push rule with
    | .ok set => (sets.put target set, .ok ())
    | .error fault => (sets, .error fault)
  | .extend target other => (sets.put target (sets target ++ sets other), .ok ())
  | .concat target base additional => (sets.put target (sets base ++ sets additional), .ok ())

/-- The sets after several steps. A step that fails does not end them. -/
def performAll (sets : Sets) (steps : List Step) : Sets :=
  steps.foldl (fun sets step => (sets.perform step).1) sets

variable {sets : Sets} {n : Nat}

theorem perform_push_of_valid (h : rule.Valid) :
    sets.perform (.push n rule) = (sets.put n ⟨(sets n).rules ++ [rule]⟩, .ok ()) := by
  rw [perform, push_of_valid h]

theorem perform_push_of_firstBad (h : rule.FirstBad bad) :
    sets.perform (.push n rule) =
      (sets, .error (.noSuchGroup rule.name bad.group rule.groupCount)) := by
  rw [perform, push_of_firstBad h]

theorem perform_push_cases (sets : Sets) (n : Nat) (rule : Rule) :
    rule.Valid ∧ (sets.perform (.push n rule)).1 = sets.put n ⟨(sets n).rules ++ [rule]⟩ ∨
      ¬ rule.Valid ∧ (sets.perform (.push n rule)).1 = sets := by
  by_cases h : rule.Valid
  · exact .inl ⟨h, by rw [perform_push_of_valid h]⟩
  · obtain ⟨bad, hbad⟩ := Rule.exists_firstBad h
    exact .inr ⟨h, by rw [perform_push_of_firstBad hbad]⟩

/-- No rule asks for a group that its pattern does not have. -/
def Valid (sets : Sets) : Prop := ∀ n, ∀ rule ∈ (sets n).rules, rule.Valid

theorem Valid.put (h : sets.Valid) (hset : ∀ rule ∈ set.rules, rule.Valid) (target : Nat) :
    (sets.put target set).Valid := by
  intro n
  rw [Sets.put]
  split
  · exact hset
  · exact h n

theorem Valid.append (h : sets.Valid) (i j : Nat) : ∀ rule ∈ (sets i ++ sets j).rules, rule.Valid :=
  List.forall_mem_append.2 ⟨h i, h j⟩

theorem Valid.perform (h : sets.Valid) (step : Step) : (sets.perform step).1.Valid := by
  cases step with
  | new target => exact h.put (by simp) target
  | copy target source => exact h.put (h source) target
  | push target rule =>
      rcases sets.perform_push_cases target rule with ⟨hrule, heq⟩ | ⟨-, heq⟩
      · rw [heq]
        refine h.put (List.forall_mem_append.2 ⟨h target, ?_⟩) target
        simpa using hrule
      · rwa [heq]
  | extend target other => exact h.put (h.append target other) target
  | concat target base additional => exact h.put (h.append base additional) target

theorem Valid.performAll (h : sets.Valid) (steps : List Step) : (sets.performAll steps).Valid := by
  induction steps generalizing sets with
  | nil => exact h
  | cons step steps ih => exact ih (h.perform step)

end Sets

/-- The sets that some steps make of empty ones. -/
def build (steps : List Step) : Sets := Sets.performAll (fun _ => {}) steps

/-! ## What was added -/

/-- A rule that was added to the set with a number. -/
structure Addition where
  target : Nat
  rule : Rule

/-- The rules that were added to a set, in order. -/
def addedTo (n : Nat) (log : List Addition) : List Rule :=
  (log.filter fun a => a.target = n).map Addition.rule

def without (n : Nat) (log : List Addition) : List Addition :=
  log.filter fun a => a.target ≠ n

/-- What a step adds is recorded at the end. A set that is begun anew forgets what was added to it. -/
def record (log : List Addition) : Step → List Addition
  | .new target => without target log
  | .copy target source => without target log ++ (addedTo source log).map (Addition.mk target)
  | .push target rule => if rule.Valid then log ++ [⟨target, rule⟩] else log
  | .extend target other => log ++ (addedTo other log).map (Addition.mk target)
  | .concat target base additional =>
    without target log ++ (addedTo base log ++ addedTo additional log).map (Addition.mk target)

def additions (steps : List Step) : List Addition := steps.foldl record []

variable {n target : Nat} {log log' : List Addition}

theorem addedTo_append : addedTo n (log ++ log') = addedTo n log ++ addedTo n log' := by
  simp [addedTo]

theorem addedTo_map (rules : List Rule) :
    addedTo n (rules.map (Addition.mk target)) = if n = target then rules else [] := by
  by_cases h : n = target
  · simp [addedTo, h, List.filter_map, Function.comp_def]
  · simp [addedTo, h, Ne.symm h, List.filter_map, Function.comp_def]

theorem addedTo_without :
    addedTo n (without target log) = if n = target then [] else addedTo n log := by
  rw [addedTo, without, List.filter_filter]
  split
  · rename_i h
    simp [h]
  · rename_i h
    refine congrArg (List.map Addition.rule) (List.filter_congr fun a _ => ?_)
    by_cases ha : a.target = n
    · simp [ha, h]
    · simp [ha]

/-- Each set is its part of the record. -/
def Recorded (sets : Sets) (log : List Addition) : Prop := ∀ n, (sets n).rules = addedTo n log

namespace Recorded

variable {sets : Sets}

theorem putNew (h : Recorded sets log) (target : Nat) (set : RuleSet) :
    Recorded (sets.put target set) (without target log ++ set.rules.map (Addition.mk target)) := by
  intro n
  rw [Sets.put, addedTo_append, addedTo_without, addedTo_map]
  split
  · rfl
  · rw [h n, List.append_nil]

theorem putMore (h : Recorded sets log) (target : Nat) (rules : List Rule) :
    Recorded (sets.put target ⟨(sets target).rules ++ rules⟩)
      (log ++ rules.map (Addition.mk target)) := by
  intro n
  rw [Sets.put, addedTo_append, addedTo_map]
  split
  · rename_i hn
    rw [hn, h target]
  · rw [h n, List.append_nil]

theorem perform (h : Recorded sets log) (step : Step) :
    Recorded (sets.perform step).1 (record log step) := by
  cases step with
  | new target =>
      have hnew := h.putNew target {}
      rwa [List.map_nil, List.append_nil] at hnew
  | copy target source =>
      rw [record, ← h source]
      exact h.putNew target (sets source)
  | push target rule =>
      -- a rule that is refused is in the record as little as in the set
      rcases sets.perform_push_cases target rule with ⟨hrule, heq⟩ | ⟨hrule, heq⟩
      · rw [record, if_pos hrule, heq]
        exact h.putMore target [rule]
      · rw [record, if_neg hrule, heq]
        exact h
  | extend target other =>
      rw [record, ← h other]
      exact h.putMore target (sets other).rules
  | concat target base additional =>
      rw [record, ← h base, ← h additional]
      exact h.putNew target (sets base ++ sets additional)

theorem performAll (h : Recorded sets log) (steps : List Step) :
    Recorded (sets.performAll steps) (steps.foldl record log) := by
  induction steps generalizing sets log with
  | nil => exact h
  | cons step steps ih => exact ih (h.perform step)

end Recorded

theorem recorded_build (steps : List Step) : Recorded (build steps) (additions steps) := by
  have hempty : Recorded (fun _ => {}) [] := fun _ => rfl
  exact hempty.performAll steps

theorem valid_build (steps : List Step) : (build steps).Valid :=
  Sets.Valid.performAll (fun _ => by simp) steps

/-! ## Which sets can be built -/

theorem performAll_push {sets : Sets} {rules : List Rule} (h : ∀ rule ∈ rules, rule.Valid) (n : Nat) :
    (sets.performAll (rules.map (.push n)) n).rules = (sets n).rules ++ rules := by
  induction rules generalizing sets with
  | nil => simp [Sets.performAll]
  | cons rule rules ih =>
      obtain ⟨hrule, hrules⟩ := List.forall_mem_cons.1 h
      have hfirst : (sets.perform (.push n rule)).1 = sets.put n ⟨(sets n).rules ++ [rule]⟩ := by
        rw [Sets.perform_push_of_valid hrule]
      rw [List.map_cons, Sets.performAll, List.foldl_cons, hfirst]
      refine (ih hrules).trans ?_
      simp [Sets.put]

/-- The sets that can be built are the sets of valid rules. -/
theorem exists_build_iff : (∃ steps n, build steps n = set) ↔ ∀ rule ∈ set.rules, rule.Valid := by
  constructor
  · rintro ⟨steps, n, rfl⟩
    exact valid_build steps n
  · intro h
    -- the rules are pushed one after the other, and none of them is refused
    exact ⟨set.rules.map (.push 0), 0, congrArg RuleSet.mk (performAll_push h 0)⟩

/-- However sets are built, they hold the rules that were added to them, in this order, and none of
these is about a group that its pattern does not have. A rule that is about one is refused for the
first such group and changes no set; no match would have that group. -/
theorem sets_hold_added_rules (steps : List Step) (n : Nat) :
    (build steps n).rules = addedTo n (additions steps) ∧
    (∀ rule ∈ (build steps n).rules, ∀ h ∈ rule.highlights, h.group ≤ rule.groupCount ∧
      ∀ text, ∀ m ∈ rule.pattern.findAll text,
        (m.group? h.group = none ↔ h.group ≤ rule.groupCount ∧ ¬ m.TookPart h.group)) ∧
    (∀ (rule : Rule) (bad : Highlight), rule.FirstBad bad →
      (build steps).perform (.push n rule) =
        (build steps, .error (.noSuchGroup rule.name bad.group rule.groupCount)) ∧
      ∀ text, ∀ m ∈ rule.pattern.findAll text, m.group? bad.group = none) ∧
    (∀ rule : Rule, (rule.isValid = true ↔ rule.Valid) ∧
      (rule.Valid → (build steps).perform (.push n rule) =
        ((build steps).put n ⟨(build steps n).rules ++ [rule]⟩, .ok ()))) ∧
    (∀ i j, (build steps i ++ build steps j).rules = (build steps i).rules ++ (build steps j).rules) ∧
    (∀ (name : String) (rule : Rule), (build steps n).get? name = some rule ↔
      ∃ before after, addedTo n (additions steps) = before ++ rule :: after ∧ rule.name = name ∧
        ∀ other ∈ before, other.name ≠ name) := by
  have hadded := recorded_build steps n
  refine ⟨hadded, fun rule hrule h hh => ?_, fun rule bad hbad => ?_,
    fun rule => ⟨Rule.isValid_iff, Sets.perform_push_of_valid⟩, fun i j => rules_append .., fun name rule => ?_⟩
  · -- of the two reasons for which a group is missing, the rule's validity excludes the one
    have hgroup := valid_build steps n rule hrule h hh
    exact ⟨hgroup, fun text m _ => by simp [Match.group?_eq_none_iff, hgroup]⟩
  · exact ⟨Sets.perform_push_of_firstBad hbad, fun text m hm => hbad.group?_eq_none hm⟩
  · rw [get?_eq_some_iff, hadded]

/-- A rule for a second group is refused between others; the sets around it are put together twice. -/
theorem sets_hold_added_rules_refused :
    let pattern := Pattern.concat [.group 1 (.text "a"), .text "b"]
    let first : Rule := ⟨"rule", pattern, [{ group := 1, category := .keyword }]⟩
    let refused : Rule := ⟨"refused", pattern, [{ group := 0, category := .comment },
      { group := 2, category := .keyword }, { group := 3, category := .string }]⟩
    let second : Rule := ⟨"rule", .text "c", [{ group := 0, category := .typeName }]⟩
    let steps : List Step :=
      [.push 0 first, .push 0 refused, .push 1 second, .concat 2 0 1, .extend 2 0]
    (build steps 2).rules = [first, second, first] ∧
      (∀ text, ∀ m ∈ pattern.findAll text, m.group? 1 = none ↔ 1 ≤ first.groupCount ∧ ¬ m.TookPart 1) ∧
      ((build steps).perform (.push 2 refused)).2 = .error (.noSuchGroup "refused" 2 1) ∧
      (build steps 2).get? "rule" = some first := by
  intro pattern first refused second steps
  obtain ⟨hadded, hgroups, hrefused, _, _, hget⟩ := sets_hold_added_rules steps 2
  have hrules : addedTo 2 (additions steps) = [first, second, first] := by decide
  have hbad : refused.FirstBad { group := 2, category := .keyword } :=
    ⟨[{ group := 0, category := .comment }], [{ group := 3, category := .string }], rfl,
      by decide, by decide⟩
  refine ⟨hadded.trans hrules, ?_, ?_, (hget "rule" first).2 ⟨[], [second, first], hrules, rfl, nofun⟩⟩
  · have hfirst : first ∈ (build steps 2).rules := by
      rw [hadded, hrules]
      exact List.mem_cons_self
    exact (hgroups first hfirst _ List.mem_cons_self).2
  · rw [(hrefused refused _ hbad).1]
    rfl

end RuleSet

/-! ## The sets for scripts -/

namespace Script

theorem valid_added :
    ∀ set ∈ [headings, reserved, frameworks, catalog], ∀ rule ∈ set.rules, rule.Valid := by
  simp only [List.forall_mem_cons, headings, reserved, frameworks, catalog, Rule.Valid, Rule.groupCount,
    Pattern.concat, Pattern.groupCount, Pattern.wholeWord, Pattern.opt, Std.le_max]
  simp

theorem valid_level (level : Level) : ∀ rule ∈ level.rules.rules, rule.Valid := by
  have hheadings := valid_added headings (by simp)
  have htwo := List.forall_mem_append.2 ⟨hheadings, valid_added reserved (by simp)⟩
  cases level with
  | one => exact hheadings
  | two => exact htwo
  | three => exact List.forall_mem_append.2 ⟨htwo, valid_added frameworks (by simp)⟩

/-- Nothing fails when the rules for scripts are put together. -/
theorem exists_build (level base : Level) :
    (∃ steps n, RuleSet.build steps n = (ecmaScript level).rules) ∧
      ∃ steps n, RuleSet.build steps n = (actionScriptOn base).rules := by
  rw [RuleSet.exists_build_iff, RuleSet.exists_build_iff]
  exact ⟨valid_level level,
    List.forall_mem_append.2 ⟨valid_level baseLevel, valid_added catalog (by simp)⟩⟩

end Script

end Highlighter
