import Highlighter.Proofs.Rule.Frame
import Highlighter.Script.ActionScript

/-! What each layer of rules for scripts may change of what the layers before it left behind. -/
namespace Highlighter.Script

variable {text : Text} {state : LineState} {pos : Nat} {c : Category}

/-- The byte is part of a class name that a framework takes as an argument. -/
def ClassArgument (text : Text) (pos : Nat) : Prop :=
  frameworks.InGroup "dojo_declare" 1 text pos ∨ frameworks.InGroup "ext_define" 1 text pos

/-- The byte is part of the word that makes a function an accessor. -/
def AccessorWord (text : Text) (pos : Nat) : Prop :=
  catalog.InGroup "function_declaration" 2 text pos

/-- The byte is part of the return type of a function. -/
def ReturnType (text : Text) (pos : Nat) : Prop :=
  catalog.InGroup "function_declaration" 4 text pos

instance (text : Text) (pos : Nat) : Decidable (ClassArgument text pos) :=
  inferInstanceAs (Decidable (_ ∨ _))

instance (text : Text) (pos : Nat) : Decidable (AccessorWord text pos) :=
  inferInstanceAs (Decidable (catalog.InGroup ..))

instance (text : Text) (pos : Nat) : Decidable (ReturnType text pos) :=
  inferInstanceAs (Decidable (catalog.InGroup ..))

/-! ## The replacing highlights -/

theorem replacing_headings : headings.replacing = [] := by decide

theorem replacing_reserved : reserved.replacing = [] := by decide

theorem replacing_frameworks :
    frameworks.replacing = [("dojo_declare", 1, .typeName), ("ext_define", 1, .typeName)] := by
  decide

theorem replacing_catalog :
    catalog.replacing =
      [("function_declaration", 2, .keyword), ("function_declaration", 4, .typeName)] := by
  decide

theorem distinct_frameworks : frameworks.Distinct := by decide

theorem distinct_catalog : catalog.Distinct := by decide

theorem overwrites_frameworks : frameworks.Overwrites text pos ↔ ClassArgument text pos := by
  rw [RuleSet.overwrites_iff_inGroup distinct_frameworks, replacing_frameworks]
  simp [ClassArgument]

theorem overwrites_catalog :
    catalog.Overwrites text pos ↔ AccessorWord text pos ∨ ReturnType text pos := by
  rw [RuleSet.overwrites_iff_inGroup distinct_catalog, replacing_catalog]
  simp [AccessorWord, ReturnType]

theorem not_accessorWord_and_returnType : ¬ (AccessorWord text pos ∧ ReturnType text pos) := by
  rintro ⟨haccessor, hreturn⟩
  have heq := haccessor.eq_of_isFlat distinct_catalog (by decide) (by decide) (by decide) hreturn
  contradiction

theorem overwrites_level {level : Level} :
    level.rules.Overwrites text pos ↔ level = .three ∧ ClassArgument text pos := by
  have hheadings : ¬ headings.Overwrites text pos :=
    RuleSet.not_overwrites_of_replacing replacing_headings
  have hreserved : ¬ reserved.Overwrites text pos :=
    RuleSet.not_overwrites_of_replacing replacing_reserved
  cases level <;>
    simp [Level.rules, RuleSet.overwrites_append, hheadings, hreserved, overwrites_frameworks]

theorem overwrites_actionScriptOn {base : Level} :
    (actionScriptOn base).rules.Overwrites text pos ↔ AccessorWord text pos ∨ ReturnType text pos := by
  simp [actionScriptOn, baseLevel, RuleSet.overwrites_append, overwrites_level, overwrites_catalog]

/-! ## From one layer to the next -/

theorem marked_two :
    (ecmaScript .two).marked text state =
      (reserved.apply text ((ecmaScript .one).marked text state)).1 :=
  Engine.marked_append (by rfl) (by rfl) ..

theorem marked_three :
    (ecmaScript .three).marked text state =
      (frameworks.apply text ((ecmaScript .two).marked text state)).1 :=
  Engine.marked_append (by rfl) (by rfl) ..

theorem marked_actionScriptOn {base : Level} :
    (actionScriptOn base).marked text state =
      (catalog.apply text ((ecmaScript .two).marked text state)).1 :=
  Engine.marked_append (by rfl) (by rfl) ..

theorem shown_two_of_one (h : (ecmaScript .one).shown text state pos = some c) :
    (ecmaScript .two).shown text state pos = some c := by
  rw [Engine.shown_eq] at h ⊢
  rw [marked_two]
  exact RuleSet.categoryAt?_apply_of_some h
    (RuleSet.not_overwrites_of_replacing replacing_reserved)

theorem shown_three_of_two (h : (ecmaScript .two).shown text state pos = some c)
    (harg : ¬ ClassArgument text pos) : (ecmaScript .three).shown text state pos = some c := by
  rw [Engine.shown_eq] at h ⊢
  rw [marked_three]
  exact RuleSet.categoryAt?_apply_of_some h fun ho => harg (overwrites_frameworks.1 ho)

theorem ClassArgument.lt_byteLength (h : ClassArgument text pos) : pos < text.byteLength := by
  rcases h with hin | hin
  · exact hin.lt_byteLength
  · exact hin.lt_byteLength

theorem shown_three_of_classArgument (h : ClassArgument text pos) :
    (ecmaScript .three).shown text state pos = some .typeName := by
  rw [Engine.shown_eq, marked_three]
  refine RuleSet.categoryAt?_apply_of_overwrites ?_ (overwrites_frameworks.2 h) ?_
  · simpa using h.lt_byteLength
  · intro entry hentry _
    rw [replacing_frameworks] at hentry
    simp only [List.mem_cons, List.not_mem_nil, or_false] at hentry
    rcases hentry with rfl | rfl <;> rfl

theorem shown_actionScriptOn_of_two {base : Level}
    (h : (ecmaScript .two).shown text state pos = some c)
    (haccessor : ¬ AccessorWord text pos) (hreturn : ¬ ReturnType text pos) :
    (actionScriptOn base).shown text state pos = some c := by
  rw [Engine.shown_eq] at h ⊢
  rw [marked_actionScriptOn]
  refine RuleSet.categoryAt?_apply_of_some h fun ho => ?_
  rcases overwrites_catalog.1 ho with ha | hr
  · exact haccessor ha
  · exact hreturn hr

/-- What a replacing highlight of the catalog writes stays: no byte is part of both. -/
theorem shown_actionScriptOn_of_replacing {base : Level} {entry : String × Nat × Category}
    (hentry : entry ∈ catalog.replacing) (hin : catalog.InGroup entry.1 entry.2.1 text pos) :
    (actionScriptOn base).shown text state pos = some entry.2.2 := by
  rw [Engine.shown_eq, marked_actionScriptOn]
  refine RuleSet.categoryAt?_apply_of_overwrites (by simpa using hin.lt_byteLength)
    ((RuleSet.overwrites_iff_inGroup distinct_catalog).2 ⟨entry, hentry, hin⟩) fun other hother hin' => ?_
  rw [replacing_catalog] at hentry hother
  simp only [List.mem_cons, List.not_mem_nil, or_false] at hentry hother
  rcases hentry with rfl | rfl
  · rcases hother with rfl | rfl
    · rfl
    · exact absurd ⟨hin, hin'⟩ not_accessorWord_and_returnType
  · rcases hother with rfl | rfl
    · exact absurd ⟨hin', hin⟩ not_accessorWord_and_returnType
    · rfl

theorem shown_actionScriptOn_of_accessorWord {base : Level} (h : AccessorWord text pos) :
    (actionScriptOn base).shown text state pos = some .keyword := by
  have hentry : ("function_declaration", 2, .keyword) ∈ catalog.replacing := by
    simp [replacing_catalog]
  exact shown_actionScriptOn_of_replacing hentry h

theorem shown_actionScriptOn_of_returnType {base : Level} (h : ReturnType text pos) :
    (actionScriptOn base).shown text state pos = some .typeName := by
  have hentry : ("function_declaration", 4, .typeName) ∈ catalog.replacing := by
    simp [replacing_catalog]
  exact shown_actionScriptOn_of_replacing hentry h

/-! ## The whole -/

/-- Later rules only add, except through highlights that replace. The first four parts hold of all
sets of rules; the others say what that comes to for the layers. -/
theorem layers_only_add (a b : RuleSet) (text : Text) (markup : Markup) (state : LineState)
    (base : Level) (pos : Nat) :
    (a ++ b).apply text markup =
      ((b.apply text (a.apply text markup).1).1,
        (a.apply text markup).2 + (b.apply text (a.apply text markup).1).2) ∧
    (∀ c, markup.categoryAt? pos = some c → ¬ b.Overwrites text pos →
      (b.apply text markup).1.categoryAt? pos = some c) ∧
    (¬ b.Marks text pos → (b.apply text markup).1.categoryAt? pos = markup.categoryAt? pos) ∧
    (pos < markup.length → b.Overwrites text pos →
      ∃ before last after, b.assignments text = before ++ last :: after ∧ last.Replaces pos ∧
        (∀ later ∈ after, ¬ later.Replaces pos) ∧
        (b.apply text markup).1.categoryAt? pos = some last.category) ∧
    (∀ c, (ecmaScript .one).shown text state pos = some c →
      (ecmaScript .two).shown text state pos = some c) ∧
    (∀ c, (ecmaScript .two).shown text state pos = some c → ¬ ClassArgument text pos →
      (ecmaScript .three).shown text state pos = some c) ∧
    (ClassArgument text pos → (ecmaScript .three).shown text state pos = some .typeName) ∧
    (∀ c, (ecmaScript .two).shown text state pos = some c →
      ¬ AccessorWord text pos → ¬ ReturnType text pos →
      (actionScriptOn base).shown text state pos = some c) ∧
    (AccessorWord text pos → (actionScriptOn base).shown text state pos = some .keyword) ∧
    (ReturnType text pos → (actionScriptOn base).shown text state pos = some .typeName) :=
  ⟨RuleSet.apply_append .., fun _ h ho => RuleSet.categoryAt?_apply_of_some h ho,
    RuleSet.categoryAt?_apply_of_not_marks, RuleSet.exists_last_of_overwrites,
    fun _ => shown_two_of_one, fun _ => shown_three_of_two, shown_three_of_classArgument,
    fun _ => shown_actionScriptOn_of_two, shown_actionScriptOn_of_accessorWord,
    shown_actionScriptOn_of_returnType⟩

/-- A getter's heading: one word is kept, and two are overwritten. -/
theorem layers_only_add_getter :
    (actionScriptOn .one).shown "function get f(): void".toList .normal 0 = some .keyword ∧
    (actionScriptOn .one).shown "function get f(): void".toList .normal 9 = some .keyword ∧
    (actionScriptOn .one).shown "function get f(): void".toList .normal 18 = some .typeName := by
  have hword := layers_only_add headings catalog "function get f(): void".toList (.blank 22) .normal
    .one 0
  have haccessor := layers_only_add headings catalog "function get f(): void".toList (.blank 22)
    .normal .one 9
  have hreturn := layers_only_add headings catalog "function get f(): void".toList (.blank 22) .normal
    .one 18
  obtain ⟨_, _, _, _, _, _, _, hkept, _⟩ := hword
  obtain ⟨_, _, _, _, _, _, _, _, hkeyword, _⟩ := haccessor
  obtain ⟨_, _, _, _, _, _, _, _, _, htype⟩ := hreturn
  exact ⟨hkept .keyword (by decide +kernel) (by decide +kernel) (by decide +kernel),
    hkeyword (by decide +kernel), htype (by decide +kernel)⟩

/-- A comment stays a comment, and for ActionScript a string a string, exactly where no class
argument, accessor word or return type is found in it. -/
theorem comment_shown_iff (text : Text) (state : LineState) (base : Level) (pos : Nat) :
    (∀ level, ((ecmaScript level).scanned text state).categoryAt? pos = some .comment →
      ((ecmaScript level).shown text state pos = some .comment ↔
        ¬ (level = .three ∧ ClassArgument text pos))) ∧
    (∀ c, c = .comment ∨ c = .string →
      ((actionScriptOn base).scanned text state).categoryAt? pos = some c →
      ((actionScriptOn base).shown text state pos = some c ↔
        ¬ (AccessorWord text pos ∨ ReturnType text pos))) := by
  constructor
  · intro level h
    rw [Engine.shown_eq, ← overwrites_level]
    refine RuleSet.categoryAt?_apply_eq_some_iff h ?_
    cases level <;> decide
  · intro c hc h
    have hne : ∀ entry ∈ (actionScriptOn base).rules.replacing, entry.2.2 ≠ c := by
      rcases hc with rfl | rfl <;> cases base <;> decide
    rw [Engine.shown_eq, Engine.marked, RuleSet.categoryAt?_apply_eq_some_iff h hne,
      overwrites_actionScriptOn]

/-- A return type in a comment is shown as a type. -/
theorem actionScript_overwrites_comment :
    (actionScript.scanned "// function f(): void".toList .normal).categoryAt? 17 = some .comment ∧
    actionScript.shown "// function f(): void".toList .normal 17 = some .typeName := by
  decide +kernel

/-- Of that comment the first byte stays, and the bytes of the type do not. -/
theorem comment_shown_iff_declaration :
    (actionScriptOn .three).shown "// function f(): void".toList .normal 0 = some .comment ∧
    (actionScriptOn .three).shown "// function f(): void".toList .normal 17 ≠ some .comment ∧
    (ecmaScript .three).shown "// function f(): void".toList .normal 17 = some .comment := by
  have hfirst := (comment_shown_iff "// function f(): void".toList .normal .three 0).2 .comment
    (.inl rfl) (by decide +kernel)
  have hlast := (comment_shown_iff "// function f(): void".toList .normal .three 17).2 .comment
    (.inl rfl) (by decide +kernel)
  have hlevel := (comment_shown_iff "// function f(): void".toList .normal .three 17).1 .three
    (by decide +kernel)
  refine ⟨hfirst.2 (by decide +kernel), fun h => hlast.1 h (by decide +kernel),
    hlevel.2 (by decide +kernel)⟩

end Highlighter.Script
