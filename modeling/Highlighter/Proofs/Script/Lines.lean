import Highlighter.Proofs.Rule.Takes
import Highlighter.Proofs.Script.Contexts
import Highlighter.Proofs.Script.Layers
import Highlighter.Proofs.Script.OnePass

/-!
Lines of ActionScript without comments and strings. The rules begin with nothing known about them, and
the last rule, the one for the members of the core objects, only adds to what the others leave.
-/
namespace Highlighter.Script

open Pattern

/-! ## Before the rules run -/

/-- The characters with which a comment, a string or a regular expression can begin. -/
def openingSigns : List Char := ['/', '"', '\'', '\x60']

theorem lex_code_of_plain {text : Text} (h : ∀ x ∈ text, x ∉ openingSigns) (operand : Bool) :
    (Mode.code operand).lex text = (.replicate text.byteLength none, .normal) := by
  induction text generalizing operand with
  | nil => rfl
  | cons x text ih =>
      obtain ⟨hx, hrest⟩ := List.forall_mem_cons.1 h
      simp only [openingSigns, List.mem_cons, List.not_mem_nil, or_false, not_or] at hx
      have hstep : (Mode.code operand).step x text.head? =
          (none, .code (Mode.operandAfter operand x)) := by
        simp [Mode.step, Mode.stepCode, hx]
      rw [Mode.lex_cons, hstep, ih hrest]
      simp [← List.replicate_append_replicate]

section

variable {base : Level} {text : Text}

theorem scan_of_plain (h : ∀ x ∈ text, x ∉ openingSigns) :
    (Markup.blank text.byteLength).scan (actionScriptOn base).constructs text .normal =
      (.blank text.byteLength, .normal) := by
  have hconstructs : (actionScriptOn base).constructs = constructs := rfl
  rw [hconstructs, scan_constructs]
  have hlex : (Mode.start .normal).lex text = (.replicate text.byteLength none, .normal) :=
    lex_code_of_plain h true
  rw [hlex]
  rfl

theorem scanned_of_plain (h : ∀ x ∈ text, x ∉ openingSigns) :
    (actionScriptOn base).scanned text .normal = .blank text.byteLength := by
  rw [Engine.scanned, scan_of_plain h]

theorem state_of_plain (h : ∀ x ∈ text, x ∉ openingSigns) :
    ((actionScriptOn base).highlightLine text .normal).state = .normal := by
  have hstate : ((actionScriptOn base).highlightLine text .normal).state =
      ((Markup.blank text.byteLength).scan (actionScriptOn base).constructs text .normal).2 := rfl
  rw [hstate, scan_of_plain h]

end

/-! ## The rules in two parts -/

theorem ne_nil_of_listed {words : List String} {part : Text} (hpart : String.ofList part ∈ words)
    (hwords : "" ∉ words) : part ≠ [] := by
  rintro rfl
  exact hwords hpart

def memberRules : RuleSet := ⟨catalog.rules.drop 7⟩

def otherRules : RuleSet := headings ++ reserved ++ ⟨catalog.rules.take 7⟩

theorem rules_actionScriptOn (base : Level) : (actionScriptOn base).rules = otherRules ++ memberRules :=
  rfl

/-- The rules for reserved words, which are whole words. -/
def reservedWordRules : List Rule :=
  [importWord, keywordWord, basicTypeWord, constantWord, forEach, addedKeywordWord]

theorem mem_otherRules {rule : Rule} :
    rule ∈ otherRules.rules ↔ rule ∈ reservedWordRules ∨ rule = functionHeading ∨
      rule = functionProperty ∨ rule = functionAssignment ∨ rule = restParameter ∨
      rule = typeAnnotation ∨ rule = typeOperand ∨ rule = functionDeclaration ∨
      rule = missingReturnType ∨ rule = variableDeclaration := by
  have hrules : otherRules.rules =
      [importWord, functionHeading, functionProperty, functionAssignment, keywordWord, basicTypeWord,
        constantWord, forEach, addedKeywordWord, restParameter, typeAnnotation, typeOperand,
        functionDeclaration, missingReturnType, variableDeclaration] := rfl
  simp only [hrules, reservedWordRules, List.mem_cons, List.not_mem_nil, or_false]
  exact iff_of_eq (by ac_rfl)

/-- What a rule for reserved words takes, by its category. -/
theorem reservedWordRules_takes {rule : Rule} (hrule : rule ∈ reservedWordRules) {h : Highlight}
    (hh : h ∈ rule.highlights) {pre part post : Text}
    (htakes : rule.pattern.Takes h.group pre part post) :
    Text.IsRun Text.isWord pre part post ∧
      ((String.ofList part ∈ keywords ++ addedKeywords ∧ h.category = .keyword) ∨
        (String.ofList part ∈ basicTypes ∧ h.category = .typeName) ∨
        (String.ofList part ∈ constants ∧ h.category = .constant)) := by
  simp only [reservedWordRules, List.mem_cons, List.not_mem_nil, or_false] at hrule
  rcases hrule with rfl | rfl | rfl | rfl | rfl | rfl
  · obtain rfl := List.mem_singleton.1 hh
    obtain ⟨hword, hrun⟩ := takes_word ["import"] (by decide) htakes
    have hkeyword : ∀ w ∈ ["import"], w ∈ keywords := by decide +kernel
    exact ⟨hrun, .inl ⟨List.mem_append_left _ (hkeyword _ hword), rfl⟩⟩
  · obtain rfl := List.mem_singleton.1 hh
    obtain ⟨hword, hrun⟩ := takes_word keywords (by decide +kernel) htakes
    exact ⟨hrun, .inl ⟨List.mem_append_left _ hword, rfl⟩⟩
  · obtain rfl := List.mem_singleton.1 hh
    obtain ⟨hword, hrun⟩ := takes_word basicTypes (by decide) htakes
    exact ⟨hrun, .inr (.inl ⟨hword, rfl⟩)⟩
  · obtain rfl := List.mem_singleton.1 hh
    obtain ⟨hword, hrun⟩ := takes_word constants (by decide) htakes
    exact ⟨hrun, .inr (.inr ⟨hword, rfl⟩)⟩
  · obtain rfl := List.mem_singleton.1 hh
    obtain ⟨rfl, hrun⟩ := forEach_takes htakes
    exact ⟨hrun, .inl ⟨by decide +kernel, rfl⟩⟩
  · obtain rfl := List.mem_singleton.1 hh
    obtain ⟨hword, hrun, -⟩ := takes_wholeWord [noMember] addedKeywords (by decide) (by decide) htakes
    exact ⟨hrun, .inl ⟨List.mem_append_right _ hword, rfl⟩⟩

/-- What the rules in the first part take of a line that does not have the word of functions and has no
two dots in a row. -/
inductive PlainPart (pre part post : Text) : Category → Prop
  | keyword (hword : String.ofList part ∈ keywords ++ addedKeywords)
      (hrun : Text.IsRun Text.isWord pre part post) : PlainPart pre part post .keyword
  | basicType (hword : String.ofList part ∈ basicTypes) (hrun : Text.IsRun Text.isWord pre part post) :
      PlainPart pre part post .typeName
  | constant (hword : String.ofList part ∈ constants) (hrun : Text.IsRun Text.isWord pre part post) :
      PlainPart pre part post .constant
  | heading (htakes : functionHeading.pattern.Takes 1 pre part post) :
      PlainPart pre part post .functionName
  | typeName (htakes : typeAnnotation.pattern.Takes 1 pre part post) :
      PlainPart pre part post .typeName
  | operand (htakes : typeOperand.pattern.Takes 1 pre part post) : PlainPart pre part post .typeName
  | declarator (htakes : variableDeclaration.pattern.Takes 1 pre part post) :
      PlainPart pre part post .keyword
  | declared (htakes : variableDeclaration.pattern.Takes 2 pre part post) :
      PlainPart pre part post .variableName

theorem plainPart_of_takes {rule : Rule} (hrule : rule ∈ otherRules.rules) {h : Highlight}
    (hh : h ∈ rule.highlights) {pre part post : Text}
    (htakes : rule.pattern.Takes h.group pre part post)
    (hfunction : ¬ HoldsFunction (pre ++ (part ++ post))) (hdots : SingleDots (pre ++ (part ++ post))) :
    PlainPart pre part post h.category := by
  rcases mem_otherRules.1 hrule with hreserved | rfl | rfl | rfl | rfl | rfl | rfl | rfl | rfl | rfl
  -- reserved words
  · obtain ⟨hrun, ⟨hword, hcategory⟩ | ⟨hword, hcategory⟩ | ⟨hword, hcategory⟩⟩ :=
      reservedWordRules_takes hreserved hh htakes
    · rw [hcategory]
      exact .keyword hword hrun
    · rw [hcategory]
      exact .basicType hword hrun
    · rw [hcategory]
      exact .constant hword hrun
  -- functions, and parameters
  · obtain rfl := List.mem_singleton.1 hh
    exact .heading htakes
  · obtain rfl := List.mem_singleton.1 hh
    exact absurd (functionProperty_takes htakes).2.2 hfunction
  · obtain rfl := List.mem_singleton.1 hh
    exact absurd (functionAssignment_takes htakes).2.2 hfunction
  · obtain rfl := List.mem_singleton.1 hh
    obtain rfl := restParameter_takes htakes
    exact hdots.not_ellipsis.elim
  -- types
  · obtain rfl := List.mem_singleton.1 hh
    exact .typeName htakes
  · obtain rfl := List.mem_singleton.1 hh
    exact .operand htakes
  -- named functions
  · obtain ⟨m, hm, -⟩ := htakes
    exact absurd (functionDeclaration_match hm) hfunction
  · obtain ⟨m, hm, -⟩ := htakes
    exact absurd (missingReturnType_match hm) hfunction
  -- declarations
  · rcases List.mem_cons.1 hh with rfl | hh
    · exact .declarator htakes
    · obtain rfl := List.mem_singleton.1 hh
      exact .declared htakes

theorem mem_headings {rule : Rule} :
    rule ∈ headings.rules ↔ rule = importWord ∨ rule = functionHeading ∨
      rule = functionProperty ∨ rule = functionAssignment := by
  have hrules : headings.rules =
      [importWord, functionHeading, functionProperty, functionAssignment] := rfl
  simp only [hrules, List.mem_cons, List.not_mem_nil, or_false]

theorem mem_reserved {rule : Rule} :
    rule ∈ reserved.rules ↔ rule = keywordWord ∨ rule = basicTypeWord ∨
      rule = constantWord ∨ rule = forEach := by
  have hrules : reserved.rules =
      [keywordWord, basicTypeWord, constantWord, forEach] := rfl
  simp only [hrules, List.mem_cons, List.not_mem_nil, or_false]

theorem mem_catalog {rule : Rule} :
    rule ∈ catalog.rules ↔ rule = addedKeywordWord ∨ rule = restParameter ∨ rule = typeAnnotation ∨
      rule = typeOperand ∨ rule = functionDeclaration ∨ rule = missingReturnType ∨
      rule = variableDeclaration ∨ rule ∈ memberRules.rules := by
  have hrules : catalog.rules = [addedKeywordWord, restParameter, typeAnnotation, typeOperand,
      functionDeclaration, missingReturnType, variableDeclaration] ++ memberRules.rules := rfl
  simp only [hrules, List.mem_append, List.mem_cons, List.not_mem_nil, or_false, or_assoc]

/-- What the rule for members takes is one of their names, behind a dot. -/
theorem memberRules_takes {rule : Rule} (hrule : rule ∈ memberRules.rules) {h : Highlight}
    (hh : h ∈ rule.highlights) {pre part post : Text}
    (htakes : rule.pattern.Takes h.group pre part post) :
    String.ofList part ∈ builtinMethods ∧ Text.IsRun Text.isWord pre part post ∧
      pre.getLast? = some '.' := by
  have hrules : memberRules.rules = [catalog.rules[7]] := rfl
  rw [hrules, List.mem_singleton] at hrule
  subst hrule
  obtain rfl := List.mem_singleton.1 hh
  have hplain : ∀ w ∈ builtinMethods, IsPlain w.toList := by decide +kernel
  obtain ⟨hword, hrun, first, hway⟩ :=
    takes_wholeWord [Pattern.text "."] builtinMethods (by decide) hplain htakes
  exact ⟨hword, hrun, by simpa using before_of_dot hway⟩

theorem not_overwrites_memberRules {text : Text} {pos : Nat} : ¬ memberRules.Overwrites text pos :=
  RuleSet.not_overwrites_of_replacing (by decide)

/-- Where every part of a line that is taken is within one of some spans, and each span is taken as a
whole, in parts only where it is filled up, the line shows these spans. -/
theorem highlightLine_of_spans {base : Level} {text : Text} {spans : List Span}
    (hplain : ∀ x ∈ text, x ∉ openingSigns) (hspans : spans.Pairwise Span.Apart)
    (hbounds : ∀ span ∈ spans, span.start < span.stop ∧ span.stop ≤ text.byteLength)
    (hothers : ∀ a ∈ otherRules.assignments text, ∃ span ∈ spans, a.Within span)
    (hmembers : ∀ a ∈ memberRules.assignments text, ∃ span ∈ spans,
      span.start ≤ a.start ∧ a.stop ≤ span.stop)
    (hwhole : ∀ span ∈ spans, ∃ a ∈ otherRules.assignments text, a.Is span ∧
      (a.policy ≠ .skip ∨ ∀ b ∈ otherRules.assignments text, b.Within span → b.Is span)) :
    (actionScriptOn base).highlightLine text .normal = ⟨spans, .normal⟩ := by
  have hrealized : ∀ span ∈ spans, span.RealizedBy (otherRules.assignments text) := by
    intro span hspan
    obtain ⟨a, ha, his, hone⟩ := hwhole span hspan
    exact Span.realizedBy_of_within hspans hothers hspan ha his hone
  have honly : ∀ a ∈ otherRules.assignments text, ∀ pos, a.Covers pos →
      ∃ span ∈ spans, span.contains pos = true := by
    rintro a ha pos ⟨hlo, hhi⟩
    obtain ⟨span, hspan, -, hstart, hstop⟩ := hothers a ha
    exact ⟨span, hspan, Span.contains_iff.2 (by omega)⟩
  have hshown : ∀ pos, (actionScriptOn base).shown text .normal pos = Span.categoryAt? spans pos := by
    intro pos
    have hfirst : ((Markup.blank text.byteLength).writeAll
        (otherRules.assignments text)).1.categoryAt? pos = Span.categoryAt? spans pos :=
      Markup.categoryAt?_of_spans hspans hrealized (fun span hspan => (hbounds span hspan).2) honly
    rw [Engine.shown_eq, Engine.marked, scanned_of_plain hplain, rules_actionScriptOn,
      RuleSet.apply_append]
    by_cases hmarks : memberRules.Marks text pos
    · obtain ⟨a, ha, hlo, hhi⟩ := RuleSet.marks_iff.1 hmarks
      obtain ⟨span, hspan, hstart, hstop⟩ := hmembers a ha
      have hcontains : span.contains pos = true := Span.contains_iff.2 (by omega)
      rw [Span.categoryAt?_of_contains (hspans.imp Span.Apart.le) hspan hcontains] at hfirst ⊢
      exact RuleSet.categoryAt?_apply_of_some hfirst not_overwrites_memberRules
    · rw [RuleSet.categoryAt?_apply_of_not_marks hmarks]
      exact hfirst
  have heq := Engine.spans_eq_of_shown hspans (fun span hspan => (hbounds span hspan).1) hshown
  calc (actionScriptOn base).highlightLine text .normal
    _ = ⟨((actionScriptOn base).highlightLine text .normal).spans,
          ((actionScriptOn base).highlightLine text .normal).state⟩ := rfl
    _ = ⟨spans, .normal⟩ := by rw [heq, state_of_plain hplain]

end Highlighter.Script
