import Highlighter.Proofs.Script.Variables

/-!
Lines that test the type of a name, or make a new object. The operator and the type are shown, and in
front of them a name that begins with the word of functions passes for the heading of one. Together
with the lines that declare a name, these are the lines on which names and types stand alone.
-/
namespace Highlighter.Script

open Pattern

variable {x : Option Text} {word type pre part post : Text}

def testWords : List String := ["as", "is", "instanceof"]

/-- A name in front of an operator that tests its type, and nothing in front of `new`. -/
structure Operates (x : Option Text) (word type : Text) : Prop where
  word_mem : String.ofList word ∈ if x.isSome then testWords else ["new"]
  plain : ∀ name ∈ x, IsPlainName name
  dotted : Dotted IsPlainName type

def tested : Option Text → Text
  | none => []
  | some name => name ++ [' ']

def operation (x : Option Text) (word type : Text) : Text := tested x ++ (word ++ ' ' :: type)

/-- What the rules take of such a line: the operator, the type, and of the name what follows the word
of functions. -/
inductive OperationPart (x : Option Text) (word type : Text) : Text → Text → Text → Category → Prop
  | word : OperationPart x word type (tested x) word (' ' :: type) .keyword
  | type : OperationPart x word type (tested x ++ (word ++ [' '])) type [] .typeName
  | heading {suffix : Text} (hname : functionWord ++ suffix ∈ x) (hsuffix : IsIdentifier suffix) :
      OperationPart x word type functionWord suffix (' ' :: (word ++ ' ' :: type)) .functionName

namespace Operates

theorem word_mem_operandWords (h : Operates x word type) : String.ofList word ∈ operandWords := by
  have hmem := h.word_mem
  have htest : ∀ w ∈ testWords, w ∈ operandWords := by decide
  split at hmem
  · exact htest _ hmem
  · rw [List.mem_singleton.1 hmem]
    decide

theorem isPlain_word (h : Operates x word type) : IsPlain word := by
  simpa using isPlain_operandWords _ h.word_mem_operandWords

theorem identifiers (h : Operates x word type) : Dotted IsIdentifier type :=
  h.dotted.imp fun _ hname => hname.1.identifier

/-- The whole words of the line. -/
theorem run_cases (h : Operates x word type) (hrun : Text.IsRun Text.isWord pre part post)
    (htext : operation x word type = pre ++ (part ++ post)) (hne : part ≠ []) :
    (x = some part ∧ pre = [] ∧ post = ' ' :: (word ++ ' ' :: type)) ∨
      (pre = tested x ∧ part = word ∧ post = ' ' :: type) ∨
      ∃ before, pre = tested x ++ (word ++ ' ' :: before) ∧ type = before ++ (part ++ post) ∧
        IsPlainName part := by
  have hbehind : ∀ {mid}, mid ++ (part ++ post) = word ++ ' ' :: type →
      Text.IsRun Text.isWord mid part post →
      (mid = [] ∧ part = word ∧ post = ' ' :: type) ∨
        ∃ before, mid = word ++ ' ' :: before ∧ type = before ++ (part ++ post) ∧
          IsPlainName part := by
    intro mid hmid hrun
    rcases hrun.side hmid (by decide) with ⟨more, hword, hpost, hside⟩ | ⟨more, rfl, htype, hside⟩
    · obtain ⟨rfl, rfl, rfl⟩ := hside.eq_of_all hword.symm h.isPlain_word.2
      exact .inl ⟨rfl, rfl, hpost⟩
    · have heach : Text.EachRun Text.isWord IsPlainName type := h.dotted.eachRun fun _ h => h.1.word
      exact .inr ⟨more, rfl, htype, heach _ _ _ htype hside hne⟩
  cases x with
  | none =>
      rcases hbehind htext.symm hrun with ⟨rfl, hword⟩ | ⟨before, rfl, hin⟩
      · exact .inr (.inl ⟨rfl, hword⟩)
      · exact .inr (.inr ⟨before, rfl, hin⟩)
  | some name =>
      have hline : pre ++ (part ++ post) = name ++ ' ' :: (word ++ ' ' :: type) := by
        simpa [operation, tested] using htext.symm
      rcases hrun.side hline (by decide) with ⟨more, hname, hpost, hside⟩ | ⟨mid, rfl, hmid, hside⟩
      · obtain ⟨rfl, rfl, rfl⟩ := hside.eq_of_all hname.symm (h.plain name rfl).1.word
        exact .inl ⟨rfl, rfl, hpost⟩
      · rcases hbehind hmid.symm hside with ⟨rfl, hword⟩ | ⟨before, rfl, hin⟩
        · exact .inr (.inl ⟨rfl, hword⟩)
        · exact .inr (.inr ⟨before, by simp [tested], hin⟩)

/-- Of the reserved words the line has only the operator. -/
theorem part_of_word (h : Operates x word type)
    (htext : operation x word type = pre ++ (part ++ post)) (hword : String.ofList part ∈ reservedWords)
    (hrun : Text.IsRun Text.isWord pre part post) :
    String.ofList part ∈ operandWords ∧ pre = tested x ∧ part = word ∧ post = ' ' :: type := by
  have hne : part ≠ [] := ne_nil_of_listed hword (by decide +kernel)
  rcases h.run_cases hrun htext hne with ⟨hname, -⟩ | ⟨rfl, rfl, rfl⟩ | ⟨_, -, -, hname⟩
  · exact absurd hword (h.plain part hname).2
  · exact ⟨h.word_mem_operandWords, rfl, rfl, rfl⟩
  · exact absurd hword hname.2

theorem not_holdsFunction (h : Operates x word type) : ¬ HoldsFunction (operation x word type) := by
  rintro ⟨head, tail, htext, hrun⟩
  have hnot : String.ofList functionWord ∉ operandWords := by decide
  exact hnot (h.part_of_word htext (by decide +kernel) hrun).1

theorem singleDots (h : Operates x word type) : SingleDots (operation x word type) := by
  have htype : SingleDots type := by simpa using h.identifiers.singleDots List.isChain_nil
  have hword : '.' ∉ word := fun hdot => absurd (h.isPlain_word.2 '.' hdot) (by decide)
  have hbehind : SingleDots (word ++ ' ' :: type) :=
    (htype.append_left (s := [' ']) (by decide)).append_left hword
  refine hbehind.append_left ?_
  cases x with
  | none => simp [tested]
  | some name => simpa [tested] using (h.plain name rfl).1.not_mem (x := '.') (by decide)

/-- The characters of the line. -/
theorem mem_cases (h : Operates x word type) {c : Char} (hc : c ∈ operation x word type) :
    c = ' ' ∨ c = '.' ∨ identifierRest.contains c = true := by
  have hrest : Text.isWord c = true → identifierRest.contains c = true :=
    fun hword => contains_identifierRest.2 (.inl hword)
  rcases List.mem_append.1 hc with hc | hc
  · cases x with
    | none => cases hc
    | some name =>
        rcases List.mem_append.1 hc with hc | hc
        · exact .inr (.inr (hrest ((h.plain name rfl).1.word c hc)))
        · exact .inl (List.mem_singleton.1 hc)
  rcases List.mem_append.1 hc with hc | hc
  · exact .inr (.inr (hrest (h.isPlain_word.2 c hc)))
  rcases List.mem_cons.1 hc with rfl | hc
  · exact .inl rfl
  · exact .inr (h.identifiers.mem hc).symm

theorem not_mem_of_sign (h : Operates x word type) {c : Char} (hc : c ∈ ':' :: openingSigns) :
    c ∉ operation x word type := by
  have hsigns : ∀ c ∈ ':' :: openingSigns,
      c ≠ ' ' ∧ c ≠ '.' ∧ identifierRest.contains c = false := by
    decide +kernel
  obtain ⟨hspace, hdot, hrest⟩ := hsigns c hc
  intro hmem
  rcases h.mem_cases hmem with heq | heq | hin
  · exact hspace heq
  · exact hdot heq
  · rw [hin] at hrest
    cases hrest

theorem part_of_operand (h : Operates x word type)
    (htext : operation x word type = pre ++ (part ++ post))
    (htakes : typeOperand.pattern.Takes 1 pre part post) :
    OperationPart x word type pre part post .typeName := by
  obtain ⟨hled, caps, caps', hfirst⟩ := typeOperand_takes htakes
  obtain ⟨head, word', blanks, hline, hword, hne, hblanks, rfl, hrun⟩ := hled.exists_run htext
  have hreserved : ∀ w ∈ operandWords, w ∈ reservedWords := by decide +kernel
  obtain ⟨-, rfl, rfl, hpost⟩ := h.part_of_word hline (hreserved _ hword) hrun
  have hblank : ∀ y ∈ type.head?, Text.isBlank y = false := by
    simpa using h.identifiers.no_blank_before (s := [])
  obtain ⟨rfl, hrest⟩ := eq_singleton_of_blanks hne hblanks hpost hblank
  have hends : EndsName [] := ⟨by simp, by simp⟩
  have hwhole : dottedName.ways.First (.between (tested x ++ (word' ++ [' '])).reverse (type ++ [])) caps
      (.between (type.reverse ++ (tested x ++ (word' ++ [' '])).reverse) [], caps) :=
    first_dottedName h.identifiers hends
  obtain ⟨rfl, rfl⟩ := part_eq_of_first hfirst hwhole (by simpa using hrest)
  exact .type

theorem part_of_heading (h : Operates x word type)
    (htext : operation x word type = pre ++ (part ++ post))
    (htakes : functionHeading.pattern.Takes 1 pre part post) :
    OperationPart x word type pre part post .functionName := by
  cases x with
  | none =>
      have hnew : word = "new".toList := by
        have hmem := List.mem_singleton.1 h.word_mem
        rw [← hmem, String.toList_ofList]
      subst hnew
      have hline : pre ++ (part ++ post) = "new".toList ++ ' ' :: type := by
        simpa [operation, tested] using htext.symm
      have hrun : Text.IsRun Text.isWord [] "new".toList (' ' :: type) :=
        ⟨by decide, by simp, by simp; decide⟩
      obtain ⟨-, hword, -⟩ := functionHeading_takes_suffix htakes hline hrun (by decide) (by decide)
        (by simpa using identifierRest_space)
      exact absurd ⟨part, hword.symm⟩ (by decide : ¬ functionWord <+: "new".toList)
  | some name =>
      have hname : IsPlainName name := h.plain name rfl
      have hline : pre ++ (part ++ post) = name ++ ' ' :: (word ++ ' ' :: type) := by
        simpa [operation, tested] using htext.symm
      have hreserved : ∀ w ∈ ["export", "async", "function"], w ∈ reservedWords := by decide +kernel
      obtain ⟨rfl, rfl, rfl, hpart⟩ := functionHeading_takes_suffix htakes hline
        ⟨hname.1.word, by simp, by simp; decide⟩ hname.1.ne_nil (fun hmem => hname.2 (hreserved _ hmem))
        (by simpa using identifierRest_space)
      exact .heading rfl hpart

/-- The only reserved word that is taken is the operator. -/
theorem part_of_reserved (h : Operates x word type)
    (htext : operation x word type = pre ++ (part ++ post)) (hword : String.ofList part ∈ reservedWords)
    (hrun : Text.IsRun Text.isWord pre part post) :
    String.ofList part ∈ operandWords ∧ OperationPart x word type pre part post .keyword := by
  obtain ⟨hoperand, rfl, rfl, rfl⟩ := h.part_of_word htext hword hrun
  exact ⟨hoperand, .word⟩

theorem part_of_plain (h : Operates x word type) {c : Category}
    (htext : operation x word type = pre ++ (part ++ post)) (hpart : PlainPart pre part post c) :
    OperationPart x word type pre part post c := by
  have hwords : declarationWords ⊆ reservedWords := by decide +kernel
  have hnot : ∀ w ∈ operandWords, w ∉ basicTypes ∧ w ∉ constants ∧ w ∉ declarationWords := by decide
  cases hpart with
  | keyword hword hrun =>
      have hreserved : String.ofList part ∈ reservedWords :=
        mem_reservedWords.2 (by simp only [List.mem_append] at hword; tauto)
      exact (h.part_of_reserved htext hreserved hrun).2
  | basicType hword hrun =>
      have hoperand := (h.part_of_reserved htext (mem_reservedWords.2 (.inr (.inl hword))) hrun).1
      exact absurd hword (hnot _ hoperand).1
  | constant hword hrun =>
      have hoperand :=
        (h.part_of_reserved htext (mem_reservedWords.2 (.inr (.inr (.inl hword)))) hrun).1
      exact absurd hword (hnot _ hoperand).2.1
  | heading htakes => exact h.part_of_heading htext htakes
  | typeName htakes =>
      have hcolon : ':' ∈ pre := (typeAnnotation_takes htakes).1.mem
      exact absurd (htext ▸ List.mem_append_left _ hcolon) (h.not_mem_of_sign (by simp))
  | operand htakes => exact h.part_of_operand htext htakes
  | declarator htakes =>
      obtain ⟨hword, hrun⟩ := variableDeclaration_takes_word htakes
      exact absurd hword (hnot _ (h.part_of_reserved htext (hwords hword) hrun).1).2.2
  | declared htakes =>
      obtain ⟨hled, -⟩ := variableDeclaration_takes_name htakes
      obtain ⟨head, word', blanks, hline, hword, -, -, -, hrun⟩ := hled.exists_run htext
      exact absurd hword (hnot _ (h.part_of_word hline (hwords hword) hrun).1).2.2

/-- All that the rules take of the line, but for those for the members of core objects. -/
theorem part_of_takes (h : Operates x word type) {rule : Rule} (hrule : rule ∈ otherRules.rules)
    {hl : Highlight} (hhl : hl ∈ rule.highlights)
    (htext : operation x word type = pre ++ (part ++ post))
    (htakes : rule.pattern.Takes hl.group pre part post) :
    OperationPart x word type pre part post hl.category :=
  h.part_of_plain htext <|
    plainPart_of_takes hrule hhl htakes (htext ▸ h.not_holdsFunction) (htext ▸ h.singleDots)

/-- What the rule for members takes is a name in the type. -/
theorem part_of_member (h : Operates x word type) {rule : Rule} (hrule : rule ∈ memberRules.rules)
    {hl : Highlight} (hhl : hl ∈ rule.highlights)
    (htext : operation x word type = pre ++ (part ++ post))
    (htakes : rule.pattern.Takes hl.group pre part post) :
    ∃ before, pre = tested x ++ (word ++ ' ' :: before) ∧ type = before ++ (part ++ post) := by
  obtain ⟨hword, hrun, hdot⟩ := memberRules_takes hrule hhl htakes
  have hne : part ≠ [] := ne_nil_of_listed hword (by decide +kernel)
  rcases h.run_cases hrun htext hne with ⟨-, rfl, -⟩ | ⟨rfl, -⟩ | ⟨before, hpre, htype, -⟩
  · simp at hdot
  · cases x with
    | none => simp [tested] at hdot
    | some name => simp [tested] at hdot
  · exact ⟨before, hpre, htype⟩

end Operates

/-! ## What the line shows -/

/-- The span of what follows the word of functions at the beginning of a name. -/
def headingSpans : Option Text → List Span
  | none => []
  | some name =>
    if functionWord <+: name ∧ IsIdentifier (name.drop functionWord.length) then
      [.ofPart functionWord (name.drop functionWord.length) .functionName]
    else []

theorem mem_headingSpans {span : Span} :
    span ∈ headingSpans x ↔ ∃ suffix, functionWord ++ suffix ∈ x ∧ IsIdentifier suffix ∧
      span = .ofPart functionWord suffix .functionName := by
  cases x with
  | none => simp [headingSpans]
  | some name =>
      rw [headingSpans]
      constructor
      · intro hspan
        split at hspan
        · rename_i hname
          obtain ⟨⟨suffix, rfl⟩, hsuffix⟩ := hname
          rw [List.drop_left] at hspan hsuffix
          exact ⟨suffix, rfl, hsuffix, List.mem_singleton.1 hspan⟩
        · cases hspan
      · rintro ⟨suffix, hname, hsuffix, rfl⟩
        obtain rfl : functionWord ++ suffix = name := (Option.some.inj hname).symm
        rw [List.drop_left, if_pos ⟨List.prefix_append _ _, hsuffix⟩]
        exact List.mem_singleton.2 rfl

def operationSpans (x : Option Text) (word type : Text) : List Span :=
  headingSpans x ++
    [.ofPart (tested x) word .keyword, .ofPart (tested x ++ (word ++ [' '])) type .typeName]

theorem mem_operationSpans {span : Span} :
    span ∈ operationSpans x word type ↔
      (∃ suffix, functionWord ++ suffix ∈ x ∧ IsIdentifier suffix ∧
        span = .ofPart functionWord suffix .functionName) ∨
        span = .ofPart (tested x) word .keyword ∨
        span = .ofPart (tested x ++ (word ++ [' '])) type .typeName := by
  rw [operationSpans, List.mem_append, mem_headingSpans]
  simp

theorem OperationPart.exists_span {c : Category}
    (h : OperationPart x word type pre part post c) (policy : Policy) :
    ∃ span ∈ operationSpans x word type,
      (⟨pre.byteLength, (pre ++ part).byteLength, c, policy⟩ : Assignment).Is span := by
  cases h with
  | word => exact ⟨_, mem_operationSpans.2 (.inr (.inl rfl)), rfl, rfl, rfl⟩
  | type => exact ⟨_, mem_operationSpans.2 (.inr (.inr rfl)), rfl, rfl, rfl⟩
  | heading hname hsuffix =>
      exact ⟨_, mem_operationSpans.2 (.inl ⟨_, hname, hsuffix, rfl⟩), rfl, rfl, rfl⟩

/-- The spans of the line have different categories. -/
theorem eq_of_category {a b : Span} (ha : a ∈ operationSpans x word type)
    (hb : b ∈ operationSpans x word type) (h : a.category = b.category) : a = b := by
  rcases mem_operationSpans.1 ha with ⟨suffix, hname, -, rfl⟩ | rfl | rfl <;>
    rcases mem_operationSpans.1 hb with ⟨suffix', hname', -, rfl⟩ | rfl | rfl <;>
    simp at h
  · obtain rfl : suffix = suffix' := List.append_cancel_left (Option.mem_unique hname hname')
    rfl
  · rfl
  · rfl

theorem apart_operationSpans : (operationSpans x word type).Pairwise Span.Apart := by
  have hspace : ' '.utf8Size = 1 := rfl
  have hbehind : Span.Apart (.ofPart (tested x) word .keyword)
      (.ofPart (tested x ++ (word ++ [' '])) type .typeName) := by
    left
    simp [hspace]
  refine List.pairwise_append.2 ⟨?_, by simpa using hbehind, fun a ha b hb => ?_⟩
  · cases x with
    | none => exact .nil
    | some name =>
        rw [headingSpans]
        split <;> simp
  · obtain ⟨suffix, hname, -, rfl⟩ := mem_headingSpans.1 ha
    obtain rfl : x = some (functionWord ++ suffix) := hname
    rcases List.mem_cons.1 hb with rfl | hb
    · left
      simp [tested, hspace]
    · obtain rfl := List.mem_singleton.1 hb
      left
      have hsize : (tested (some (functionWord ++ suffix))).byteLength =
          (functionWord ++ suffix).byteLength + 1 := by
        simp [tested, hspace, Nat.add_assoc]
      simp only [Span.ofPart_start, Span.ofPart_stop, Text.byteLength_append, Text.byteLength_cons,
        Text.byteLength_nil, hspace] at hsize ⊢
      omega

namespace Operates

theorem onWord_tested : Anchor.onWord (tested x).reverse.head? = false := by
  cases x with
  | none => rfl
  | some name => simp [tested, Anchor.onWord]; decide

theorem exists_way_word {words : List String} (hplain : ∀ w ∈ words, IsPlain w.toList)
    (hword : String.ofList word ∈ words) (x : Option Text) (type : Text) :
    ∃ r, r ∈ (wholeWord words).ways (.between (tested x).reverse (word ++ ' ' :: type)) [] := by
  have hafter : Anchor.onWord (' ' :: type).head? = false := by
    simp [Anchor.onWord]; decide
  exact ⟨_, (mem_ways_wholeWord hplain).2 ⟨_, hword, ' ' :: type, by simp, onWord_tested, hafter, rfl⟩⟩

/-- What is taken for the category of a span is the whole of the span. -/
theorem write_of_takes (h : Operates x word type) {rule : Rule} (hrule : rule ∈ otherRules.rules)
    {hl : Highlight} (hhl : hl ∈ rule.highlights)
    (htakes : ∃ pre part post, operation x word type = pre ++ (part ++ post) ∧
      rule.pattern.Takes hl.group pre part post)
    {span : Span} (hspan : span ∈ operationSpans x word type) (hcategory : span.category = hl.category) :
    ∃ a ∈ otherRules.assignments (operation x word type), a.Is span := by
  obtain ⟨pre, part, post, htext, htakes⟩ := htakes
  obtain ⟨other, hother, his⟩ :=
    (h.part_of_takes hrule hhl htext htakes).exists_span hl.policy
  obtain rfl := eq_of_category hother hspan (his.2.2.symm.trans hcategory.symm)
  exact ⟨_, RuleSet.mem_assignments_of_takes hrule hhl htext htakes, his⟩

theorem exists_write_word (h : Operates x word type) :
    ∃ a ∈ otherRules.assignments (operation x word type), a.Is (.ofPart (tested x) word .keyword) := by
  have hspan : Span.ofPart (tested x) word .keyword ∈ operationSpans x word type :=
    mem_operationSpans.2 (.inr (.inl rfl))
  have hcases : ∀ w ∈ operandWords, w ∈ keywords ∨ w ∈ addedKeywords ∧ w ≠ "new" := by
    decide +kernel
  rcases hcases _ h.word_mem_operandWords with hword | ⟨hword, hne⟩
  · have hplain : ∀ w ∈ keywords, IsPlain w.toList := by decide +kernel
    obtain ⟨r, hway⟩ := exists_way_word hplain hword x type
    obtain ⟨pre, part, post, htext, htakes⟩ :=
      exists_takes_of_wholeWord [] (by simp) hplain hway
    have hrule : keywordWord ∈ otherRules.rules := mem_otherRules.2 (by simp [reservedWordRules])
    refine h.write_of_takes hrule (.head _) ⟨pre, part, post, ?_, htakes⟩ hspan rfl
    rw [← htext]
    simp [operation, Cursor.text]
  · have hplain : ∀ w ∈ addedKeywords, IsPlain w.toList := by decide
    cases x with
    | none => exact absurd (List.mem_singleton.1 h.word_mem) hne
    | some name =>
        obtain ⟨r, hway⟩ := exists_way_word hplain hword (some name) type
        have hlead : (.between (' ' :: name.reverse) (word ++ ' ' :: type), []) ∈
            noMember.ways (.between name.reverse (' ' :: (word ++ ' ' :: type))) [] := by
          refine mem_ways_firstOf.2 ⟨_, .tail _ (.head _), mem_ways_char.2 ⟨' ', _, rfl, ?_, rfl⟩⟩
          decide +kernel
        have hway' : r ∈ (concat ([noMember] ++ [wholeWord addedKeywords])).ways
            (.between name.reverse (' ' :: (word ++ ' ' :: type))) [] :=
          mem_ways_concat_append.2 ⟨_, hlead, by simpa [tested] using hway⟩
        obtain ⟨pre, part, post, htext, htakes⟩ :=
          exists_takes_of_wholeWord [noMember] (by decide) hplain hway'
        have hrule : addedKeywordWord ∈ otherRules.rules := mem_otherRules.2 (by simp [reservedWordRules])
        refine h.write_of_takes hrule (.head _) ⟨pre, part, post, ?_, htakes⟩ hspan rfl
        rw [← htext]
        simp [operation, tested, Cursor.text]

theorem exists_write_type (h : Operates x word type) :
    ∃ a ∈ otherRules.assignments (operation x word type),
      a.Is (.ofPart (tested x ++ (word ++ [' '])) type .typeName) := by
  let c := Cursor.between (tested x).reverse (word ++ ' ' :: type)
  have hboundary : Anchor.wordBoundary.holds c = true := by
    rw [h.isPlain_word.wordBoundary_first, onWord_tested]
    rfl
  have hword : ∀ caps, (.between (word.reverse ++ (tested x).reverse) (' ' :: type), caps) ∈
      (firstOf (operandWords.map Pattern.text)).ways c caps :=
    fun caps => mem_ways_firstOf_text.2 ⟨word, _, h.word_mem_operandWords, rfl, rfl⟩
  have hends : EndsName [] := ⟨by simp, by simp⟩
  have htype : ∀ before caps, (.between (type.reverse ++ before) [], caps) ∈
      dottedName.ways (.between before type) caps := by
    intro before caps
    have hfirst := List.mem_of_head? (@first_dottedName caps before [] type h.identifiers hends)
    rwa [List.append_nil] at hfirst
  have hway := way_cons (mem_ways_anchor.2 ⟨hboundary, rfl⟩) <| way_cons (hword []) <|
    way_cons way_space <| way_cons (way_group 1 (htype _ _)) way_nil
  obtain ⟨pre, part, post, htext, htakes⟩ := exists_takes_of_way
    [wordBoundary, firstOf (operandWords.map Pattern.text), space] [] (by decide) (by decide) hway
  have hrule : typeOperand ∈ otherRules.rules := mem_otherRules.2 (by simp)
  refine h.write_of_takes hrule (.head _) ⟨pre, part, post, ?_, htakes⟩
    (mem_operationSpans.2 (.inr (.inr rfl))) rfl
  rw [← htext]
  simp [c, operation, Cursor.text]

/-- A name that begins with the word of functions and goes on as an identifier passes for a heading. -/
theorem exists_write_heading {suffix : Text} (h : Operates (some (functionWord ++ suffix)) word type)
    (hsuffix : IsIdentifier suffix) :
    ∃ a ∈ otherRules.assignments (operation (some (functionWord ++ suffix)) word type),
      a.Is (.ofPart functionWord suffix .functionName) := by
  obtain ⟨pre, part, post, htext, htakes⟩ := exists_functionHeading_takes []
    (' ' :: (word ++ ' ' :: type)) (by simp) hsuffix
  have hrule : functionHeading ∈ otherRules.rules := mem_otherRules.2 (by simp)
  refine h.write_of_takes hrule (.head _) ⟨pre, part, post, ?_, htakes⟩
    (mem_operationSpans.2 (.inl ⟨suffix, rfl, hsuffix, rfl⟩)) rfl
  rw [← htext]
  simp [operation, tested]

/-- All spans of the line are written as a whole, and nothing else is. -/
theorem exists_write (h : Operates x word type) {span : Span}
    (hspan : span ∈ operationSpans x word type) :
    ∃ a ∈ otherRules.assignments (operation x word type), a.Is span := by
  rcases mem_operationSpans.1 hspan with ⟨suffix, hname, hsuffix, rfl⟩ | rfl | rfl
  · obtain rfl : x = some (functionWord ++ suffix) := hname
    exact h.exists_write_heading hsuffix
  · exact h.exists_write_word
  · exact h.exists_write_type

theorem bounds_operationSpans (h : Operates x word type) :
    ∀ span ∈ operationSpans x word type,
      span.start < span.stop ∧ span.stop ≤ (operation x word type).byteLength := by
  intro span hspan
  rcases mem_operationSpans.1 hspan with ⟨suffix, hname, hsuffix, rfl⟩ | rfl | rfl
  · obtain rfl : x = some (functionWord ++ suffix) := hname
    have hlength := Text.byteLength_pos hsuffix.ne_nil
    simp [operation, tested, hlength]
  · have hword := Text.byteLength_pos h.isPlain_word.1
    simp [operation, hword]
  · have htype := Text.byteLength_pos h.identifiers.ne_nil
    simp [operation, htype]
    omega

/-- The line shows its operator and its type, and in front of them at most a heading. -/
theorem highlightLine (h : Operates x word type) (base : Level) :
    (actionScriptOn base).highlightLine (operation x word type) .normal =
      ⟨operationSpans x word type, .normal⟩ := by
  have hparts : ∀ a ∈ otherRules.assignments (operation x word type),
      ∃ span ∈ operationSpans x word type, a.Is span := by
    intro a ha
    obtain ⟨rule, hrule, hl, hhl, pre, part, post, htext, htakes, rfl⟩ :=
      RuleSet.exists_takes_of_mem ha
    exact (h.part_of_takes hrule hhl htext htakes).exists_span hl.policy
  refine highlightLine_of_spans (fun c hc hsign => h.not_mem_of_sign (.tail _ hsign) hc)
    apart_operationSpans h.bounds_operationSpans (fun a ha => ?_) (fun a ha => ?_) (fun span hspan => ?_)
  · obtain ⟨span, hspan, hstart, hstop, hcategory⟩ := hparts a ha
    exact ⟨span, hspan, hcategory, hstart.ge, hstop.le⟩
  · obtain ⟨rule, hrule, hl, hhl, pre, part, post, htext, htakes, rfl⟩ :=
      RuleSet.exists_takes_of_mem ha
    obtain ⟨before, rfl, rfl⟩ := h.part_of_member hrule hhl htext htakes
    exact ⟨_, mem_operationSpans.2 (.inr (.inr rfl)), by simp, by simp; omega⟩
  · obtain ⟨a, ha, his⟩ := h.exists_write hspan
    refine ⟨a, ha, his, .inr fun b hb hwithin => ?_⟩
    obtain ⟨other, hother, hb'⟩ := hparts b hb
    rwa [eq_of_category hspan hother (hwithin.1.symm.trans hb'.2.2)]

end Operates

/-- A line that declares a plain name shows the keyword, the name and, behind a colon, all of the type.
One that tests such a name's type shows the operator and the type, and besides them the rest of a name
that begins with the word of functions; one that makes a new object shows `new` and the type. -/
theorem plain_names_and_types_shown (base : Level) (name : Text) (hname : IsPlainName name) :
    (∀ keyword, String.ofList keyword ∈ ["var", "const"] →
      (actionScriptOn base).highlightLine (keyword ++ ' ' :: name) .normal =
        ⟨[.ofPart [] keyword .keyword, .ofPart (keyword ++ [' ']) name .variableName], .normal⟩ ∧
      ∀ type, DeclaredType type →
        (actionScriptOn base).highlightLine (keyword ++ ' ' :: (name ++ ':' :: type)) .normal =
          ⟨[.ofPart [] keyword .keyword, .ofPart (keyword ++ [' ']) name .variableName,
            .ofPart (keyword ++ ' ' :: (name ++ [':'])) type .typeName], .normal⟩) ∧
    ∀ type, Dotted IsPlainName type →
      (∀ word, String.ofList word ∈ ["as", "is", "instanceof"] →
        (actionScriptOn base).highlightLine (name ++ ' ' :: (word ++ ' ' :: type)) .normal =
          ⟨headingSpans (some name) ++ [.ofPart (name ++ [' ']) word .keyword,
            .ofPart (name ++ ' ' :: (word ++ [' '])) type .typeName], .normal⟩) ∧
      (actionScriptOn base).highlightLine ("new ".toList ++ type) .normal =
        ⟨[.ofPart [] "new".toList .keyword, .ofPart "new ".toList type .typeName], .normal⟩ := by
  constructor
  · intro keyword hkeyword
    constructor
    · have hline : Declares keyword name none := ⟨hkeyword, hname, by simp⟩
      simpa [declaration, typeSuffix, declarationSpans] using hline.highlightLine base
    · intro type htype
      have hline : Declares keyword name (some type) := ⟨hkeyword, hname, by simpa using htype⟩
      simpa [declaration, typeSuffix, declarationSpans] using hline.highlightLine base
  · intro type htype
    constructor
    · intro word hword
      have hline : Operates (some name) word type := ⟨hword, by simpa using hname, htype⟩
      simpa [operation, tested, operationSpans] using hline.highlightLine base
    · have hline : Operates none "new".toList type := ⟨by decide, by simp, htype⟩
      simpa [operation, tested, operationSpans, headingSpans] using hline.highlightLine base

/-- The keyword, the name and a type in angle brackets; a name that only holds the word of functions is
no heading. -/
theorem plain_names_and_types_shown_vector :
    IsPlainName "isFunction".toList ∧
    (actionScript.highlightLine "var isFunction:Vector.<int>".toList .normal).spans =
      [⟨0, 3, .keyword⟩, ⟨4, 14, .variableName⟩, ⟨15, 27, .typeName⟩] ∧
    (actionScript.highlightLine "isFunction as flash.display.Sprite".toList .normal).spans =
      [⟨11, 13, .keyword⟩, ⟨14, 34, .typeName⟩] ∧
    (actionScript.highlightLine "new Sprite".toList .normal).spans =
      [⟨0, 3, .keyword⟩, ⟨4, 10, .typeName⟩] := by
  have hname : IsPlainName "isFunction".toList := by decide +kernel
  have hvector : DeclaredType ("Vector".toList ++ '.' :: '<' :: ("int".toList ++ ['>'])) :=
    .vector (.one (by decide +kernel)) (.inr (.one (by decide +kernel)))
  have hdotted : Dotted IsPlainName
      ("flash".toList ++ '.' :: ("display".toList ++ '.' :: "Sprite".toList)) :=
    .more (by decide +kernel) (.more (by decide +kernel) (.one (by decide +kernel)))
  obtain ⟨hdeclared, htested⟩ := plain_names_and_types_shown .three "isFunction".toList hname
  have hvar := congrArg HighlightedLine.spans ((hdeclared "var".toList (by decide)).2 _ hvector)
  have has := congrArg HighlightedLine.spans ((htested _ hdotted).1 "as".toList (by decide))
  have hnew := congrArg HighlightedLine.spans (htested "Sprite".toList (.one (by decide +kernel))).2
  refine ⟨hname, ?_, ?_, ?_⟩
  · have htext : "var isFunction:Vector.<int>".toList = "var".toList ++ ' ' :: ("isFunction".toList ++
        ':' :: ("Vector".toList ++ '.' :: '<' :: ("int".toList ++ ['>']))) := by decide
    rw [htext]
    exact hvar.trans (by decide +kernel)
  · have htext : "isFunction as flash.display.Sprite".toList = "isFunction".toList ++ ' ' ::
        ("as".toList ++ ' ' ::
          ("flash".toList ++ '.' :: ("display".toList ++ '.' :: "Sprite".toList))) := by
      decide
    rw [htext]
    exact has.trans (by decide +kernel)
  · have htext : "new Sprite".toList = "new ".toList ++ "Sprite".toList := by decide
    rw [htext]
    exact hnew.trans (by decide +kernel)

/-- A name that begins with the word of functions is none, but its rest is shown as the name of one. -/
theorem functions_shown_as_heading :
    IsPlainName "functions".toList ∧ Dotted IsPlainName "T".toList ∧
    (actionScript.highlightLine "functions as T".toList .normal).spans =
      [⟨8, 9, .functionName⟩, ⟨10, 12, .keyword⟩, ⟨13, 14, .typeName⟩] :=
  ⟨by decide +kernel, .one (by decide +kernel), by decide +kernel⟩

end Highlighter.Script
