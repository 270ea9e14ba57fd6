import Highlighter.Proofs.Script.Lines
import Mathlib.Data.List.Basic

/-!
Lines that declare a variable or a constant, with a type or without one. Of the whole words of such a
line only the first one is reserved, apart from basic types in the type, so no other rule takes part.
-/
namespace Highlighter.Script

open Pattern

theorem not_typeName_of_reserved {word : String}
    (h : word ∈ keywords ++ constants ++ addedKeywords) : ¬ IsTypeName word.toList := by
  have hvoid : ∀ w ∈ keywords ++ constants ++ addedKeywords, w ∈ basicTypes → w = "void" := by
    decide +kernel
  intro htype
  have hreserved : word ∈ reservedWords := by
    simp only [List.mem_append] at h
    simp only [reservedWords, List.mem_append]
    tauto
  obtain ⟨hbasic, hne⟩ := htype.2 (by simpa using hreserved)
  exact hne (congrArg String.toList (hvoid word h (by simpa using hbasic)))

theorem declarationWords_listed :
    ∀ w ∈ declarationWords, w ∈ keywords ++ constants ++ addedKeywords := by
  decide +kernel

variable {keyword name pre word post part : Text} {type : Option Text}

/-- A type behind a colon, if there is one. -/
def typeSuffix : Option Text → Text
  | none => []
  | some t => ':' :: t

/-- The line declares a name, and a type for it or none. -/
structure Declares (keyword name : Text) (type : Option Text) : Prop where
  keyword_mem : String.ofList keyword ∈ declarationWords
  plain : IsPlainName name
  declared : ∀ t ∈ type, DeclaredType t

def declaration (keyword name : Text) (type : Option Text) : Text :=
  keyword ++ ' ' :: (name ++ typeSuffix type)

/-- What the rules take of such a line: its keyword, its name, and parts of its type. -/
inductive DeclarationPart (keyword name : Text) (type : Option Text) :
    Text → Text → Text → Category → Prop
  | keyword : DeclarationPart keyword name type [] keyword (' ' :: (name ++ typeSuffix type)) .keyword
  | name : DeclarationPart keyword name type (keyword ++ [' ']) name (typeSuffix type) .variableName
  | type {pre part post : Text} (h : pre ++ (part ++ post) ∈ type) :
      DeclarationPart keyword name type (keyword ++ ' ' :: (name ++ ':' :: pre)) part post .typeName

namespace Declares

theorem eq_of_keyword (h : Declares keyword name type) :
    keyword = "var".toList ∨ keyword = "const".toList := by
  have hmem := h.keyword_mem
  simp only [declarationWords, List.mem_cons, List.not_mem_nil, or_false] at hmem
  rcases hmem with hmem | hmem
  · exact .inl (by rw [← hmem, String.toList_ofList])
  · exact .inr (by rw [← hmem, String.toList_ofList])

theorem isPlain_keyword (h : Declares keyword name type) : IsPlain keyword := by
  rcases h.eq_of_keyword with rfl | rfl <;> decide

theorem isRun_keyword (h : Declares keyword name type) :
    Text.IsRun Text.isWord [] keyword (' ' :: (name ++ typeSuffix type)) :=
  ⟨h.isPlain_keyword.2, by simp, by simp; decide⟩

theorem keyword_not_mem (h : Declares keyword name type) {words : List String}
    (hwords : ∀ w ∈ declarationWords, w ∉ words) : String.ofList keyword ∉ words :=
  hwords _ h.keyword_mem

/-- The whole words of the line. -/
theorem run_cases (h : Declares keyword name type) (hrun : Text.IsRun Text.isWord pre word post)
    (htext : pre ++ (word ++ post) = declaration keyword name type) (hne : word ≠ []) :
    (pre = [] ∧ word = keyword ∧ post = ' ' :: (name ++ typeSuffix type)) ∨
      (pre = keyword ++ [' '] ∧ word = name ∧ post = typeSuffix type) ∨
      ∃ t ∈ type, ∃ before, pre = keyword ++ ' ' :: (name ++ ':' :: before) ∧
        t = before ++ (word ++ post) ∧ IsTypeName word := by
  rcases hrun.side htext (by decide) with ⟨mid, hkeyword, hpost, hside⟩ | ⟨mid, hpre, hrest, hside⟩
  · obtain ⟨rfl, rfl, rfl⟩ := hside.eq_of_all hkeyword.symm h.isPlain_keyword.2
    exact .inl ⟨rfl, rfl, hpost⟩
  · refine .inr ?_
    cases type with
    | none =>
        rw [typeSuffix, List.append_nil] at hrest
        obtain ⟨rfl, rfl, rfl⟩ := hside.eq_of_all hrest.symm h.plain.1.word
        exact .inl ⟨hpre, rfl, rfl⟩
    | some t =>
        rcases hside.side hrest.symm (by decide) with
          ⟨mid', hname, hpost, hside'⟩ | ⟨mid', rfl, ht, hside'⟩
        · obtain ⟨rfl, rfl, rfl⟩ := hside'.eq_of_all hname.symm h.plain.1.word
          exact .inl ⟨hpre, rfl, hpost⟩
        · exact .inr ⟨t, rfl, mid', hpre, ht, (h.declared t rfl).eachRun _ _ _ ht hside' hne⟩

theorem eq_of_run (h : Declares keyword name type) (hrun : Text.IsRun Text.isWord pre word post)
    (htext : pre ++ (word ++ post) = declaration keyword name type)
    (hword : String.ofList word ∈ keywords ++ constants ++ addedKeywords) :
    pre = [] ∧ word = keyword ∧ post = ' ' :: (name ++ typeSuffix type) := by
  have hnot : ¬ IsTypeName word := by simpa using not_typeName_of_reserved hword
  have hne : word ≠ [] := ne_nil_of_listed hword (by decide)
  rcases h.run_cases hrun htext hne with hkeyword | ⟨-, rfl, -⟩ | ⟨_, -, _, -, -, htype⟩
  · exact hkeyword
  · exact absurd h.plain.typeName hnot
  · exact absurd htype hnot

theorem not_holdsFunction (h : Declares keyword name type) :
    ¬ HoldsFunction (declaration keyword name type) := by
  rintro ⟨head, tail, htext, hrun⟩
  obtain ⟨-, hkeyword, -⟩ := h.eq_of_run hrun htext.symm (by decide +kernel)
  rcases h.eq_of_keyword with rfl | rfl
  · exact absurd hkeyword (by decide)
  · exact absurd hkeyword (by decide)

theorem singleDots (h : Declares keyword name type) : SingleDots (declaration keyword name type) := by
  have htail : SingleDots (typeSuffix type) := by
    cases type with
    | none => exact List.isChain_nil
    | some t => exact (h.declared t rfl).singleDots.append_left (s := [':']) (by decide)
  have hspace : SingleDots (' ' :: (name ++ typeSuffix type)) :=
    (htail.append_left (h.plain.1.not_mem (by decide))).append_left (s := [' ']) (by decide)
  refine hspace.append_left ?_
  rcases h.eq_of_keyword with rfl | rfl <;> decide

/-- Of the reserved words but the basic types the line has only the keyword. -/
theorem part_of_word (h : Declares keyword name type)
    (htext : declaration keyword name type = pre ++ (part ++ post))
    (hword : String.ofList part ∈ keywords ++ constants ++ addedKeywords)
    (hrun : Text.IsRun Text.isWord pre part post) :
    String.ofList part ∈ declarationWords ∧
      DeclarationPart keyword name type pre part post .keyword := by
  obtain ⟨rfl, rfl, rfl⟩ := h.eq_of_run hrun htext.symm hword
  exact ⟨h.keyword_mem, .keyword⟩

theorem part_of_typeSuffix (h : Declares keyword name type)
    (htext : declaration keyword name type = pre ++ (part ++ post))
    (htakes : typeAnnotation.pattern.Takes 1 pre part post) :
    ∃ t, type = some t ∧ pre = keyword ++ ' ' :: (name ++ [':']) ∧ part = t ∧ post = [] := by
  obtain ⟨⟨head, blanks, rfl, hblanks⟩, caps, caps', hfirst⟩ := typeAnnotation_takes htakes
  have hbefore : ':' ∉ keyword ++ ' ' :: name := by
    have hname := h.plain.1.not_mem (x := ':') (by decide)
    rcases h.eq_of_keyword with rfl | rfl <;> simpa using hname
  have hsplit : (keyword ++ ' ' :: name) ++ typeSuffix type =
      head ++ ':' :: (blanks ++ (part ++ post)) := by
    simpa [declaration] using htext
  cases type with
  | none =>
      have hmem : ':' ∈ keyword ++ ' ' :: name := by
        rw [typeSuffix, List.append_nil] at hsplit
        simp [hsplit]
      exact absurd hmem hbefore
  | some t =>
      have htype := (h.declared t rfl).typeText
      have hcolon : ':' ∉ t := (matches_typeExpression_iff.2 htype).not_mem (by decide +kernel)
      obtain ⟨rfl, -, hrest⟩ := (List.append_cons_inj_of_notMem hbefore hcolon).1 hsplit
      obtain ⟨rfl, hpart⟩ := eq_nil_of_head hblanks hrest.symm htype.no_blank_before
      have hwhole := @first_typeExpression (keyword ++ ' ' :: name ++ [':']).reverse [] t caps htype
        (by simp)
      obtain ⟨rfl, rfl⟩ := part_eq_of_first hfirst hwhole (by simpa using hpart)
      exact ⟨part, rfl, by simp, rfl, rfl⟩

theorem part_of_name (h : Declares keyword name type)
    (htext : declaration keyword name type = pre ++ (part ++ post))
    (htakes : variableDeclaration.pattern.Takes 2 pre part post) :
    DeclarationPart keyword name type pre part post .variableName := by
  obtain ⟨hled, caps, caps', hfirst⟩ := variableDeclaration_takes_name htakes
  obtain ⟨head, word, blanks, hline, hword, hne, hblanks, rfl, hrun⟩ := hled.exists_run htext
  obtain ⟨rfl, rfl, hpost⟩ := h.eq_of_run hrun hline.symm (declarationWords_listed _ hword)
  have hname : IsIdentifier name := h.plain.1.identifier
  have hblank : ∀ x ∈ (name ++ typeSuffix type).head?, Text.isBlank x = false :=
    (Dotted.one hname).no_blank_before
  obtain ⟨rfl, hrest⟩ := eq_singleton_of_blanks hne hblanks hpost hblank
  have hends : ∀ x ∈ (typeSuffix type).head?, identifierRest.contains x = false := by
    cases type with
    | none => simp [typeSuffix]
    | some t =>
        have hcolon : identifierRest.contains ':' = false := by decide +kernel
        simpa [typeSuffix] using hcolon
  obtain ⟨rfl, rfl⟩ := part_eq_of_first hfirst (first_identifier hname hends) hrest
  exact .name

theorem typeName_of_basicType (h : Declares keyword name type)
    (htext : declaration keyword name type = pre ++ (part ++ post))
    (hword : String.ofList part ∈ basicTypes) (hrun : Text.IsRun Text.isWord pre part post) :
    DeclarationPart keyword name type pre part post .typeName := by
  have hne : part ≠ [] := ne_nil_of_listed hword (by decide)
  have hkeyword : ∀ w ∈ declarationWords, w ∉ basicTypes := by decide
  rcases h.run_cases hrun htext.symm hne with ⟨-, rfl, -⟩ | ⟨-, rfl, -⟩ | ⟨t, ht, before, rfl, rfl, -⟩
  · exact absurd hword (hkeyword _ h.keyword_mem)
  · have hreserved : ∀ w ∈ basicTypes, w ∈ reservedWords := by decide +kernel
    exact absurd (hreserved _ hword) h.plain.2
  · exact .type ht

theorem part_of_plain (h : Declares keyword name type) {c : Category}
    (htext : declaration keyword name type = pre ++ (part ++ post)) (hpart : PlainPart pre part post c) :
    DeclarationPart keyword name type pre part post c := by
  cases hpart with
  | keyword hword hrun =>
      have hlisted : String.ofList part ∈ keywords ++ constants ++ addedKeywords := by
        simp only [List.mem_append] at hword ⊢
        tauto
      exact (h.part_of_word htext hlisted hrun).2
  | basicType hword hrun => exact h.typeName_of_basicType htext hword hrun
  | constant hword hrun =>
      have hnot : ∀ w ∈ declarationWords, w ∉ constants := by decide
      have hlisted := List.mem_append_left addedKeywords (List.mem_append_right keywords hword)
      exact absurd hword (hnot _ (h.part_of_word htext hlisted hrun).1)
  | heading htakes =>
      obtain ⟨-, hkeyword, -⟩ := functionHeading_takes_suffix htakes htext.symm h.isRun_keyword
        h.isPlain_keyword.1 (h.keyword_not_mem (by decide)) (by simpa using identifierRest_space)
      rcases h.eq_of_keyword with rfl | rfl
      · exact absurd ⟨part, hkeyword.symm⟩ (by decide : ¬ functionWord <+: "var".toList)
      · exact absurd ⟨part, hkeyword.symm⟩ (by decide : ¬ functionWord <+: "const".toList)
  | typeName htakes =>
      obtain ⟨t, rfl, rfl, rfl, rfl⟩ := h.part_of_typeSuffix htext htakes
      exact @DeclarationPart.type keyword name _ [] _ [] (by simp)
  | operand htakes =>
      obtain ⟨hled, -⟩ := typeOperand_takes htakes
      obtain ⟨head, word, blanks, hline, hword, -, -, -, hrun⟩ := hled.exists_run htext
      have hwords : ∀ w ∈ operandWords, w ∈ keywords ++ constants ++ addedKeywords := by
        decide +kernel
      have hnot : ∀ w ∈ declarationWords, w ∉ operandWords := by decide
      exact absurd hword (hnot _ (h.part_of_word hline (hwords _ hword) hrun).1)
  | declarator htakes =>
      obtain ⟨hword, hrun⟩ := variableDeclaration_takes_word htakes
      exact (h.part_of_word htext (declarationWords_listed _ hword) hrun).2
  | declared htakes => exact h.part_of_name htext htakes

/-- All that the rules take of the line, but for those for the members of core objects. -/
theorem part_of_takes (h : Declares keyword name type) {rule : Rule} (hrule : rule ∈ otherRules.rules)
    {hl : Highlight} (hhl : hl ∈ rule.highlights)
    (htext : declaration keyword name type = pre ++ (part ++ post))
    (htakes : rule.pattern.Takes hl.group pre part post) :
    DeclarationPart keyword name type pre part post hl.category :=
  h.part_of_plain htext <|
    plainPart_of_takes hrule hhl htakes (htext ▸ h.not_holdsFunction) (htext ▸ h.singleDots)

theorem wordBoundary_start (h : Declares keyword name type) :
    Anchor.wordBoundary.holds (.start (declaration keyword name type)) = true :=
  h.isPlain_keyword.wordBoundary_start

theorem exists_way (h : Declares keyword name type) :
    ∃ r, r ∈ variableDeclaration.pattern.ways (.start (declaration keyword name type)) [] := by
  have hword : ∀ caps, (.between keyword.reverse (' ' :: (name ++ typeSuffix type)), caps) ∈
      (firstOf (declarationWords.map Pattern.text)).ways (.start (declaration keyword name type)) caps :=
    fun caps => mem_ways_firstOf_text.2 ⟨keyword, _, h.keyword_mem, rfl, by simp [Cursor.start]⟩
  exact ⟨_, way_cons (mem_ways_anchor.2 ⟨h.wordBoundary_start, rfl⟩) <|
    way_cons (way_group 1 (hword _)) <| way_cons way_space <|
    way_cons (way_group 2 (way_identifier h.plain.1.identifier)) way_nil⟩

/-- What the rule for members takes is a name in the type. -/
theorem part_of_member (h : Declares keyword name type) {rule : Rule}
    (hrule : rule ∈ memberRules.rules) {hl : Highlight} (hhl : hl ∈ rule.highlights)
    (htext : declaration keyword name type = pre ++ (part ++ post))
    (htakes : rule.pattern.Takes hl.group pre part post) :
    DeclarationPart keyword name type pre part post .typeName := by
  obtain ⟨hword, hrun, hdot⟩ := memberRules_takes hrule hhl htakes
  have hne : part ≠ [] := ne_nil_of_listed hword (by decide +kernel)
  rcases h.run_cases hrun htext.symm hne with ⟨rfl, -⟩ | ⟨rfl, -⟩ | ⟨t, ht, before, rfl, rfl, -⟩
  · simp at hdot
  · simp at hdot
  · exact .type ht

/-- A type is found from the last character of the name on. -/
theorem exists_way_typeSuffix {t : Text} (h : Declares keyword name (some t)) :
    ∃ c r, c.text = declaration keyword name (some t) ∧ r ∈ typeAnnotation.pattern.ways c [] := by
  have hpattern : typeAnnotation.pattern = concat [firstOf [textStart, char (.noneOf [':'])],
      Pattern.text ":", gap, group 1 typeExpression] := rfl
  have hne : name ≠ [] := h.plain.1.ne_nil
  obtain ⟨init, y, rfl⟩ : ∃ init y, name = init ++ [y] :=
    ⟨name.dropLast, name.getLast hne, (List.dropLast_append_getLast hne).symm⟩
  have hy : (CharClass.noneOf [':']).contains y = true := by
    have hword : Text.isWord y = true := h.plain.1.word y (by simp)
    have hcolon : y ≠ ':' := by
      rintro rfl
      revert hword
      decide
    simpa [CharClass.contains_noneOf] using hcolon
  have hfirst : ∀ caps, (.between (y :: (init.reverse ++ ' ' :: keyword.reverse)) (':' :: t), caps) ∈
      (firstOf [textStart, char (.noneOf [':'])]).ways
        (.between (init.reverse ++ ' ' :: keyword.reverse) (y :: ':' :: t)) caps :=
    fun caps => mem_ways_firstOf.2 ⟨_, by simp, mem_ways_char.2 ⟨y, ':' :: t, rfl, hy, rfl⟩⟩
  have htype := fun before caps => List.mem_of_head?
    (@first_typeExpression before [] t caps (h.declared t rfl).typeText (by simp))
  simp only [List.append_nil] at htype
  refine ⟨.between (init.reverse ++ ' ' :: keyword.reverse) (y :: ':' :: t), ?_⟩
  rw [hpattern]
  exact ⟨_, by simp [Cursor.text, declaration, typeSuffix],
    way_cons (hfirst _) <| way_cons (mem_ways_literal.2 ⟨t, rfl, rfl⟩) <|
      way_cons (mem_ways_gap.2 ⟨[], t, rfl, by simp, rfl⟩) <| way_cons (way_group 1 (htype _ _)) way_nil⟩

end Declares

def declarationSpans (keyword name : Text) (type : Option Text) : List Span :=
  [.ofPart [] keyword .keyword, .ofPart (keyword ++ [' ']) name .variableName] ++
    type.toList.map fun t => .ofPart (keyword ++ ' ' :: (name ++ [':'])) t .typeName

theorem mem_declarationSpans {span : Span} :
    span ∈ declarationSpans keyword name type ↔
      span = .ofPart [] keyword .keyword ∨ span = .ofPart (keyword ++ [' ']) name .variableName ∨
        ∃ t ∈ type, span = .ofPart (keyword ++ ' ' :: (name ++ [':'])) t .typeName := by
  simp [declarationSpans, eq_comm]

theorem DeclarationPart.exists_span {c : Category}
    (h : DeclarationPart keyword name type pre part post c) (policy : Policy) :
    ∃ span ∈ declarationSpans keyword name type,
      (⟨pre.byteLength, (pre ++ part).byteLength, c, policy⟩ : Assignment).Within span := by
  cases h with
  | keyword => exact ⟨_, mem_declarationSpans.2 (.inl rfl), rfl, by simp, by simp⟩
  | name =>
      exact ⟨_, mem_declarationSpans.2 (.inr (.inl rfl)), rfl, by simp, by simp [Nat.add_assoc]⟩
  | type ht =>
      exact ⟨_, mem_declarationSpans.2 (.inr (.inr ⟨_, ht, rfl⟩)), rfl, by simp, by simp; omega⟩

/-- A part that is not of the type is the whole of its span. -/
theorem DeclarationPart.is_of_within {c : Category} {policy : Policy} {span : Span}
    (h : DeclarationPart keyword name type pre part post c)
    (hspan : span ∈ declarationSpans keyword name type)
    (hwithin : (⟨pre.byteLength, (pre ++ part).byteLength, c, policy⟩ : Assignment).Within span)
    (hne : span.category ≠ .typeName) :
    (⟨pre.byteLength, (pre ++ part).byteLength, c, policy⟩ : Assignment).Is span := by
  obtain ⟨hcategory, -⟩ := hwithin
  rcases mem_declarationSpans.1 hspan with rfl | rfl | ⟨t, -, rfl⟩
  · obtain rfl : c = .keyword := hcategory
    cases h
    exact ⟨rfl, rfl, rfl⟩
  · obtain rfl : c = .variableName := hcategory
    cases h
    exact ⟨rfl, rfl, rfl⟩
  · exact absurd rfl hne

namespace Declares

/-- Each of the spans is written as a whole, the one of the type even over parts of it. -/
theorem exists_write (h : Declares keyword name type) {span : Span}
    (hspan : span ∈ declarationSpans keyword name type) :
    ∃ a ∈ otherRules.assignments (declaration keyword name type), a.Is span ∧
      (a.policy ≠ .skip ∨ span.category ≠ .typeName) := by
  have hvariable : variableDeclaration ∈ otherRules.rules := mem_otherRules.2 (by simp)
  obtain ⟨r, hway⟩ := h.exists_way
  rcases mem_declarationSpans.1 hspan with rfl | rfl | ⟨t, rfl, rfl⟩
  · obtain ⟨pre, part, post, htext, htakes⟩ := exists_takes_of_way [wordBoundary]
      [space, group 2 identifier] (by decide) (by decide) hway
    have hmem : ⟨1, .keyword, .skip, false⟩ ∈ variableDeclaration.highlights := by decide
    have hpart := h.part_of_takes hvariable hmem htext htakes
    cases hpart
    exact ⟨_, RuleSet.mem_assignments_of_takes hvariable hmem htext htakes, ⟨rfl, rfl, rfl⟩,
      .inr (by simp)⟩
  · obtain ⟨pre, part, post, htext, htakes⟩ := exists_takes_of_way
      [wordBoundary, group 1 (firstOf (declarationWords.map Pattern.text)), space] [] (by decide)
      (by decide) hway
    have hmem : ⟨2, .variableName, .skip, false⟩ ∈ variableDeclaration.highlights := by decide
    have hpart := h.part_of_takes hvariable hmem htext htakes
    cases hpart
    exact ⟨_, RuleSet.mem_assignments_of_takes hvariable hmem htext htakes, ⟨rfl, rfl, rfl⟩,
      .inr (by simp)⟩
  · have hrule : typeAnnotation ∈ otherRules.rules := mem_otherRules.2 (by simp)
    obtain ⟨c, r, hc, hway⟩ := h.exists_way_typeSuffix
    obtain ⟨pre, part, post, htext, htakes⟩ := exists_takes_of_way
      [firstOf [textStart, char (.noneOf [':'])], Pattern.text ":", gap] [] (by decide) (by decide) hway
    have hmem : ⟨1, .typeName, .keep, false⟩ ∈ typeAnnotation.highlights := by decide
    obtain ⟨_, ⟨⟩, rfl, rfl, rfl⟩ := h.part_of_typeSuffix (hc.symm.trans htext) htakes
    exact ⟨_, RuleSet.mem_assignments_of_takes hrule hmem (hc.symm.trans htext) htakes,
      ⟨rfl, rfl, rfl⟩, .inl (by simp)⟩

theorem not_openingSign (h : Declares keyword name type) :
    ∀ x ∈ declaration keyword name type, x ∉ openingSigns := by
  have hsigns : ∀ x ∈ openingSigns,
      x ≠ ' ' ∧ x ≠ ':' ∧ Text.isWord x = false ∧ typeExpression.avoids x = true := by
    decide +kernel
  intro x hx hsign
  obtain ⟨hspace, hcolon, hword, havoids⟩ := hsigns x hsign
  rcases List.mem_append.1 hx with hx | hx
  · rw [h.isPlain_keyword.2 x hx] at hword
    cases hword
  rcases List.mem_append.1 ((List.mem_cons.1 hx).resolve_left hspace) with hx | hx
  · exact h.plain.1.not_mem hword hx
  · cases type with
    | none => cases hx
    | some t =>
        have ht := (List.mem_cons.1 hx).resolve_left hcolon
        exact (matches_typeExpression_iff.2 (h.declared t rfl).typeText).not_mem havoids ht

theorem apart_declarationSpans (h : Declares keyword name type) :
    (declarationSpans keyword name type).Pairwise Span.Apart := by
  have hspace : ' '.utf8Size = 1 := rfl
  have hcolon : ':'.utf8Size = 1 := rfl
  cases type with
  | none => simp [declarationSpans, Span.Apart, hspace]
  | some t => simp [declarationSpans, Span.Apart, hspace, hcolon]; omega

theorem bounds_declarationSpans (h : Declares keyword name type) :
    ∀ span ∈ declarationSpans keyword name type,
      span.start < span.stop ∧ span.stop ≤ (declaration keyword name type).byteLength := by
  intro span hspan
  rcases mem_declarationSpans.1 hspan with rfl | rfl | ⟨t, rfl, rfl⟩
  · have hkeyword := Text.byteLength_pos h.isPlain_keyword.1
    simp [declaration, hkeyword]
  · have hname := Text.byteLength_pos h.plain.1.ne_nil
    simp [declaration, hname]
    omega
  · have ht := Text.byteLength_pos (h.declared t rfl).typeText.ne_nil
    simp [declaration, typeSuffix, ht]
    omega

/-- The line shows its keyword, its name and its type, and nothing else. -/
theorem highlightLine (h : Declares keyword name type) (base : Level) :
    (actionScriptOn base).highlightLine (declaration keyword name type) .normal =
      ⟨declarationSpans keyword name type, .normal⟩ := by
  refine highlightLine_of_spans h.not_openingSign h.apart_declarationSpans h.bounds_declarationSpans
    (fun a ha => ?_) (fun a ha => ?_) (fun span hspan => ?_)
  · obtain ⟨rule, hrule, hl, hhl, pre, part, post, htext, htakes, rfl⟩ :=
      RuleSet.exists_takes_of_mem ha
    exact (h.part_of_takes hrule hhl htext htakes).exists_span hl.policy
  · obtain ⟨rule, hrule, hl, hhl, pre, part, post, htext, htakes, rfl⟩ :=
      RuleSet.exists_takes_of_mem ha
    obtain ⟨span, hspan, -, hstart, hstop⟩ :=
      (h.part_of_member hrule hhl htext htakes).exists_span hl.policy
    exact ⟨span, hspan, hstart, hstop⟩
  · obtain ⟨a, ha, his, hpolicy⟩ := h.exists_write hspan
    refine ⟨a, ha, his, hpolicy.imp_right fun hne b hb hwithin => ?_⟩
    obtain ⟨rule, hrule, hl, hhl, pre, part, post, htext, htakes, rfl⟩ :=
      RuleSet.exists_takes_of_mem hb
    exact (h.part_of_takes hrule hhl htext htakes).is_of_within hspan hwithin hne

end Declares

end Highlighter.Script
