import Highlighter.Proofs.Script.Headings
import Mathlib.Data.List.Basic

/-!
Lines with the heading of a named function. The word and the name are shown, and an accessor's word and
the return type, which are written over what other rules made of them. Without a return type the brace
behind the parameters gets a warning.
-/
namespace Highlighter.Script

open Pattern

variable {accessor : Option Text} {name params tail pre part post pre' part' post' : Text}
  {pos index : Nat}

namespace Heads

/-! ## What the line shows -/

theorem not_openingSign (h : Heads accessor name params) (htail : ∀ x ∈ tail, x ∉ openingSigns) :
    ∀ x ∈ heading accessor name params ++ tail, x ∉ openingSigns := by
  have hsigns : ∀ x ∈ openingSigns, (x ≠ ' ' ∧ x ≠ '(' ∧ x ≠ ')') ∧ Text.isWord x = false := by decide
  intro x hx hsign
  obtain ⟨⟨hspace, hplain⟩, hword⟩ := hsigns x hsign
  have hbefore : x ∉ beforeName accessor := h.not_mem_beforeName hword hspace
  have hname : x ∉ name := h.isName.not_mem hword
  have hparams : x ∉ params := fun hmem => h.not_opening x hmem hsign
  have hin : x ∉ tail := fun hmem => htail x hmem hsign
  simp [heading, hbefore, hname, hparams, hin, hplain] at hx

/-- All that the rules take of the word, or of an accessor's name, is the whole of it. -/
theorem takes_of_meet (h : Heads accessor name params) {base : Level}
    (hpart : HeadingPart accessor name params tail index pre part post)
    (htwo : index ≠ 2) (hthree : index = 3 → accessor.isSome) {rule : Rule}
    (hrule : rule ∈ (actionScriptOn base).rules.rules) {hl : Highlight} (hhl : hl ∈ rule.highlights)
    (htext : heading accessor name params ++ tail = pre' ++ (part' ++ post'))
    (htakes : rule.pattern.Takes hl.group pre' part' post') (hpos : Text.InPart pre part pos)
    (hpos' : Text.InPart pre' part' pos) :
    pre' = pre ∧ part' = part ∧
      hl.category = if index = 3 then .functionName else .keyword := by
  have hsame : Text.IsRun Text.isWord pre' part' post' → pre' = pre ∧ part' = part :=
    fun hrun => hrun.unique (h.isRun hpart) (htext.symm.trans hpart.text) hpos' hpos
  have hreserved : String.ofList part' ∈ reservedWords → Text.IsRun Text.isWord pre' part' post' →
      (part' = functionWord → hl.category = .keyword) → pre' = pre ∧ part' = part ∧
        hl.category = if index = 3 then .functionName else .keyword := by
    intro hword hrun hkeyword
    obtain ⟨rfl, rfl⟩ := hsame hrun
    rcases hpart.cases with ⟨rfl, rfl⟩ | ⟨rfl, -⟩ | ⟨rfl, -, rfl⟩
    · exact ⟨rfl, rfl, hkeyword rfl⟩
    · exact absurd rfl htwo
    · exact absurd hword (h.plain (hthree rfl))
  rcases List.mem_append.1 hrule with hrule | hrule
  · rcases List.mem_append.1 hrule with hrule | hrule
    · rcases h.headings_takes hrule hhl htext htakes with ⟨hrun, hword, hcategory⟩ | ⟨rfl, rfl, -⟩
      · exact hreserved (by rw [hword]; decide +kernel) hrun fun _ => hcategory
      -- a heading takes the accessor only
      · obtain ⟨hlo, hhi⟩ := hpos
        obtain ⟨hlo', hhi'⟩ := hpos'
        simp only [Text.byteLength_append] at hhi hlo' hhi'
        rcases hpart.cases with ⟨rfl, rfl⟩ | ⟨rfl, -⟩ | ⟨rfl, rfl, rfl⟩
        · cases hpart
          simp at hhi hlo'
          omega
        · exact absurd rfl htwo
        · obtain ⟨a, rfl⟩ := Option.isSome_iff_exists.1 (hthree rfl)
          simp [beforeName, modifier] at hlo hhi'
          omega
    · have hrule' : rule ∈ reservedWordRules := by
        simp only [reservedWordRules, List.mem_cons, List.not_mem_nil, or_false]
        rcases mem_reserved.1 hrule with rfl | rfl | rfl | rfl <;> simp
      obtain ⟨hrun, hword, hcategory⟩ := reserved_takes hrule' hhl htakes
      exact hreserved hword hrun hcategory
  · exact h.catalog_takes hpart hthree hrule hhl htext htakes hpos hpos'

theorem shown_of_part (h : Heads accessor name params) (htail : ∀ x ∈ tail, x ∉ openingSigns)
    {base : Level} (hpart : HeadingPart accessor name params tail index pre part post) (htwo : index ≠ 2)
    (hthree : index = 3 → accessor.isSome) (hpos : Text.InPart pre part pos) :
    (actionScriptOn base).shown (heading accessor name params ++ tail) .normal pos =
      some (if index = 3 then .functionName else .keyword) := by
  have hrule : functionDeclaration ∈ (actionScriptOn base).rules.rules :=
    List.mem_append_right _ (mem_catalog.2 (by simp))
  have hgroups : ∀ i ∈ [1, 3], ∃ hl ∈ functionDeclaration.highlights, hl.group = i ∧
      hl.category = if i = 3 then .functionName else .keyword := by
    decide
  obtain ⟨hl, hhl, rfl, hcategory⟩ := hgroups index (by
    rcases hpart.cases with ⟨rfl, -⟩ | ⟨rfl, -⟩ | ⟨rfl, -⟩
    · decide
    · exact absurd rfl htwo
    · decide)
  rw [Engine.shown_eq, Engine.marked, scanned_of_plain (h.not_openingSign htail), ← hcategory]
  refine RuleSet.categoryAt?_apply_of_takes hrule hhl hpart.text (h.takes hpart)
    (by simp [Markup.blank, Markup.length]) (fun _ _ => Markup.categoryAt?_blank _ _) ?_ hpos
  intro rule' hrule' h' hh' pre' part' post' pos' htext htakes hin hin'
  obtain ⟨hpre, hpart', hsame⟩ :=
    h.takes_of_meet hpart htwo hthree hrule' hh' htext htakes hin hin'
  exact ⟨hpre, hpart', hsame.trans hcategory.symm⟩

theorem inGroup_of_part (h : Heads accessor name params)
    (hpart : HeadingPart accessor name params tail index pre part post)
    (hpos : Text.InPart pre part pos) :
    catalog.InGroup "function_declaration" index (heading accessor name params ++ tail) pos := by
  rw [hpart.text]
  exact ⟨functionDeclaration, mem_catalog.2 (by simp), rfl, Rule.inGroup_of_takes (h.takes hpart) hpos⟩

theorem shown_accessor (h : Heads accessor name params) {base : Level}
    (hpart : HeadingPart accessor name params tail 2 pre part post) (hpos : Text.InPart pre part pos) :
    (actionScriptOn base).shown (heading accessor name params ++ tail) .normal pos = some .keyword :=
  shown_actionScriptOn_of_accessorWord (h.inGroup_of_part hpart hpos)

theorem not_overwrites_of_name {text : Text} (h : catalog.InGroup "function_declaration" 3 text pos) :
    ¬ catalog.Overwrites text pos := by
  have hflat : ∀ rule ∈ catalog.rules, rule.name = "function_declaration" →
      rule.pattern.isFlat = true := by
    decide
  rw [overwrites_catalog]
  rintro (haccessor | hreturn)
  · exact absurd (haccessor.eq_of_isFlat distinct_catalog hflat (by decide) (by decide) h) (by decide)
  · exact absurd (hreturn.eq_of_isFlat distinct_catalog hflat (by decide) (by decide) h) (by decide)

/-- A name without an accessor is taken first by the rule for headings, and stays what it is then. -/
theorem shown_name (h : Heads none name params) (htail : ∀ x ∈ tail, x ∉ openingSigns) {base : Level}
    (hpos : Text.InPart (beforeName none) name pos) :
    (actionScriptOn base).shown (heading none name params ++ tail) .normal pos = some .functionName := by
  have hpart : HeadingPart none name params tail 3 (beforeName none) name
      ('(' :: (params ++ ')' :: tail)) := .name
  have hfirst : (headings.apply (heading none name params ++ tail)
      (.blank (heading none name params ++ tail).byteLength)).1.categoryAt? pos = some .functionName := by
    obtain ⟨pre, part, post, hline, htakes⟩ := exists_functionHeading_takes [' ']
      ('(' :: (params ++ ')' :: tail)) (by decide) h.isName.identifier
    have htext : heading none name params ++ tail = pre ++ (part ++ post) := by
      rw [← hline]
      simp [heading, beforeName, modifier]
    obtain ⟨rfl, rfl⟩ := h.part_of_heading htext htakes
    have hrule : functionHeading ∈ headings.rules := mem_headings.2 (by simp)
    refine RuleSet.categoryAt?_apply_of_takes hrule (.head _) htext htakes
      (by simp [Markup.blank, Markup.length]) (fun _ _ => Markup.categoryAt?_blank _ _) ?_ hpos
    intro rule' hrule' h' hh' pre' part' post' pos' htext' htakes' hin hin'
    rcases h.headings_takes hrule' hh' htext' htakes' with ⟨hrun, hword, -⟩ | ⟨hpre, hpart', hcategory⟩
    · obtain ⟨-, rfl⟩ := hrun.unique (h.isRun hpart) (htext'.symm.trans hpart.text) hin' hin
      exact absurd (by rw [← hword, String.toList_ofList]) h.ne_import
    · exact ⟨hpre, hpart', hcategory⟩
  have hcatalog : ¬ catalog.Overwrites (heading none name params ++ tail) pos :=
    not_overwrites_of_name (h.inGroup_of_part hpart hpos)
  have hreserved : ¬ reserved.Overwrites (heading none name params ++ tail) pos :=
    RuleSet.not_overwrites_of_replacing replacing_reserved
  have hrules : (actionScriptOn base).rules = (headings ++ reserved) ++ catalog := rfl
  rw [Engine.shown_eq, Engine.marked, scanned_of_plain (h.not_openingSign htail), hrules,
    RuleSet.apply_append, RuleSet.apply_append]
  dsimp only
  exact RuleSet.categoryAt?_apply_of_some (RuleSet.categoryAt?_apply_of_some hfirst hreserved) hcatalog

/-! ## The return type -/

section

variable {w₁ w₂ w₃ type : Text}

theorem takes_type (h : Heads accessor name params) (hw₁ : ∀ x ∈ w₁, Text.isBlank x = true)
    (hw₂ : ∀ x ∈ w₂, Text.isBlank x = true) (hw₃ : ∀ x ∈ w₃, Text.isBlank x = true)
    (htype : TypeText type) :
    functionDeclaration.pattern.Takes 4 (heading accessor name params ++ (w₁ ++ ':' :: w₂)) type
      (w₃ ++ ['\x7b']) := by
  have hcolon : ∀ x ∈ (':' :: (w₂ ++ (type ++ (w₃ ++ ['\x7b'])))).head?, Text.isBlank x = false := by
    simp
    decide
  have hhead : ∀ x ∈ (type ++ (w₃ ++ ['\x7b'])).head?, Text.isBlank x = false := by
    have hblank := htype.no_blank_before
    cases type with
    | nil => exact absurd rfl htype.ne_nil
    | cons y type => simpa using hblank
  have hbehind : ∀ x ∈ (w₃ ++ ['\x7b']).head?, identifierRest.contains x = false ∧ x ≠ '.' := by
    have hbrace : identifierRest.contains '\x7b' = false ∧ '\x7b' ≠ '.' := by decide +kernel
    cases w₃ with
    | nil => simpa using hbrace
    | cons y w₃ =>
        have hy : Text.isBlank y = true := hw₃ y (by simp)
        have hrest : identifierRest.contains y = false := by
          cases hcontains : identifierRest.contains y with
          | false => rfl
          | true =>
              rw [isBlank_of_identifierRest hcontains] at hy
              cases hy
        have hdot : y ≠ '.' := by
          rintro rfl
          revert hy
          decide
        simpa using ⟨hrest, hdot⟩
  have hgroup : ∀ before caps, (group 4 typeExpression).ways.First
      (.between before (type ++ (w₃ ++ ['\x7b']))) caps _ :=
    fun before caps => first_group (first_typeExpression htype hbehind)
  have hfirst := h.first_heading <| first_opt_some <| first_concat_cons (first_gap hw₁ hcolon) <|
    first_concat_cons (first_literal [':']) <| first_concat_cons (first_gap hw₂ hhead) <|
    first_concat_cons (hgroup _ _) first_concat_nil
  have htext : heading accessor name params ++ (w₁ ++ ':' :: (w₂ ++ (type ++ (w₃ ++ ['\x7b'])))) =
      (heading accessor name params ++ (w₁ ++ ':' :: w₂)) ++ (type ++ (w₃ ++ ['\x7b'])) := by
    simp
  rw [htext] at hfirst
  exact takes_of_first (by decide) hfirst (by simp)

end

/-! ## The warning -/

theorem close_not_mem (h : Heads accessor name params) :
    ')' ∉ beforeName accessor ++ (name ++ '(' :: params) := by
  have hbefore : ')' ∉ beforeName accessor := h.not_mem_beforeName (by decide) (by decide)
  have hname : ')' ∉ name := h.isName.not_mem (by decide)
  simp [hbefore, hname, h.not_close]

/-- A warning is about a brace that comes next behind the parameters. -/
theorem part_of_warning (h : Heads accessor name params) (hclose : ')' ∉ tail)
    (htext : heading accessor name params ++ tail = pre ++ (part ++ post))
    (htakes : missingReturnType.pattern.Takes 1 pre part post) :
    ∃ blanks, (∀ x ∈ blanks, Text.isBlank x = true) ∧ pre = heading accessor name params ++ blanks ∧
      part = ['\x7b'] ∧ tail = blanks ++ '\x7b' :: post := by
  obtain ⟨rfl, head, blanks, rfl, hblanks⟩ := missingReturnType_takes htakes
  have hline : (beforeName accessor ++ (name ++ '(' :: params)) ++ ')' :: tail =
      head ++ ')' :: (blanks ++ '\x7b' :: post) := by
    simpa [heading] using htext
  obtain ⟨rfl, -, hrest⟩ := (List.append_cons_inj_of_notMem h.close_not_mem hclose).1 hline
  exact ⟨blanks, hblanks, by simp [heading], rfl, hrest⟩

end Heads

theorem close_not_mem_of_blanks {w : Text} (hw : ∀ x ∈ w, Text.isBlank x = true) :
    ')' ∉ w ++ ['\x7b'] := by
  have hnot : ')' ∉ w := fun hmem => absurd (hw ')' hmem) (by decide)
  simpa using hnot

theorem not_openingSign_of_blanks {w : Text} (hw : ∀ x ∈ w, Text.isBlank x = true) :
    ∀ x ∈ w ++ ['\x7b'], x ∉ openingSigns := by
  have hsigns : ∀ x ∈ openingSigns, Text.isBlank x = false ∧ x ≠ '\x7b' := by decide
  intro x hx hsign
  obtain ⟨hblank, hne⟩ := hsigns x hsign
  rcases List.mem_append.1 hx with hx | hx
  · rw [hw x hx] at hblank
    cases hblank
  · exact hne (List.mem_singleton.1 hx)

theorem warning_of_missingReturnType (base : Level) : ∀ rule ∈ (actionScriptOn base).rules.rules,
    ∀ hl ∈ rule.highlights, hl.category = .warning → rule = missingReturnType ∧ hl.group = 1 := by
  have hall : ∀ rule ∈ (baseLevel.rules ++ catalog).rules, ∀ hl ∈ rule.highlights,
      hl.category = .warning → rule = missingReturnType ∧ hl.group = 1 := by
    decide +kernel
  exact hall

theorem groupsAvoid_brace (base : Level) : ∀ rule ∈ (actionScriptOn base).rules.rules,
    (rule.pattern.groupsAvoid '\x7b' = true ∧ ∀ hl ∈ rule.highlights, hl.group ≠ 0) ∨
      rule = missingReturnType := by
  have hall : ∀ rule ∈ (baseLevel.rules ++ catalog).rules,
      (rule.pattern.groupsAvoid '\x7b' = true ∧ ∀ hl ∈ rule.highlights, hl.group ≠ 0) ∨
        rule = missingReturnType := by
    decide +kernel
  exact hall

namespace Heads

theorem not_warning (h : Heads accessor name params) (htail : ∀ x ∈ tail, x ∉ openingSigns)
    (hclose : ')' ∉ tail)
    (hbrace : ∀ blanks post, (∀ x ∈ blanks, Text.isBlank x = true) → tail ≠ blanks ++ '\x7b' :: post)
    (base : Level) (pos : Nat) :
    (actionScriptOn base).shown (heading accessor name params ++ tail) .normal pos ≠ some .warning := by
  intro hshown
  rw [Engine.shown_eq, Engine.marked, scanned_of_plain (h.not_openingSign htail)] at hshown
  rcases Markup.exists_of_categoryAt?_writeAll hshown with hblank | ⟨a, ha, -, hcategory⟩
  · rw [Markup.categoryAt?_blank] at hblank
    cases hblank
  · obtain ⟨rule, hrule, hl, hhl, pre, part, post, htext, htakes, rfl⟩ :=
      RuleSet.exists_takes_of_mem ha
    obtain ⟨rfl, hgroup⟩ := warning_of_missingReturnType base rule hrule hl hhl hcategory
    rw [hgroup] at htakes
    obtain ⟨blanks, hblanks, -, -, htail'⟩ := h.part_of_warning hclose htext htakes
    exact hbrace blanks post hblanks htail'

theorem way_modifier (h : Heads accessor name params) {before rest : Text} {caps : Captures} :
    (.between ((modifier accessor).reverse ++ before) rest, caps) ∈
      (opt (concat [firstOf (["get", "set"].map Pattern.text), space])).ways
        (.between before (modifier accessor ++ rest)) caps := by
  cases accessor with
  | none => exact mem_ways_opt.2 (.inr rfl)
  | some a =>
      have hword : (.between (a.reverse ++ before) (' ' :: rest), caps) ∈
          (firstOf (["get", "set"].map Pattern.text)).ways
            (.between before (modifier (some a) ++ rest)) caps :=
        mem_ways_firstOf_text.2 ⟨a, _, h.accessor_mem a rfl, by simp [modifier], rfl⟩
      refine mem_ways_opt.2 (.inl (way_cons hword (way_cons way_space ?_)))
      simpa [modifier] using way_nil

theorem takes_brace (h : Heads accessor name params) {w : Text}
    (hw : ∀ x ∈ w, Text.isBlank x = true) :
    missingReturnType.pattern.Takes 1 (heading accessor name params ++ w) ['\x7b'] [] := by
  have hboundary : Anchor.wordBoundary.holds
      (.start (heading accessor name params ++ (w ++ ['\x7b']))) = true :=
    isPlain_functionWord.wordBoundary_start
  have hword : (.between functionWord.reverse
      (' ' :: (modifier accessor ++ (name ++ '(' :: (params ++ ')' :: (w ++ ['\x7b']))))), []) ∈
      (literal functionWord).ways (.start (heading accessor name params ++ (w ++ ['\x7b']))) [] := by
    refine mem_ways_literal.2 ⟨_, ?_, rfl⟩
    simp [Cursor.start, heading, beforeName]
  have hname := h.isName.identifier
  have hparameters : ∀ before rest caps,
      (.between (')' :: (params.reverse ++ '(' :: before)) rest, caps) ∈ parameters.ways (.between before ('(' :: (params ++ ')' :: rest))) caps :=
    fun before rest caps => List.mem_of_head? (first_parameters h.not_close)
  have hway := way_cons (mem_ways_anchor.2 ⟨hboundary, rfl⟩) <| way_cons hword <| way_cons way_space <|
    way_cons h.way_modifier <| way_cons (way_identifier hname) <|
    way_cons (@way_gap _ _ _ [] (by simp)) <| way_cons (hparameters _ _ _) <| way_cons (way_gap hw) <|
    way_cons (way_group 1 (way_literal ['\x7b'])) way_nil
  obtain ⟨pre, part, post, hline, htakes⟩ := exists_takes_of_way
    [wordBoundary, literal functionWord, space,
      opt (concat [firstOf (["get", "set"].map Pattern.text), space]), identifier, gap, parameters, gap]
    [] (by decide) (by decide) hway
  obtain ⟨blanks, hblanks, rfl, rfl, htail⟩ :=
    h.part_of_warning (close_not_mem_of_blanks hw) hline htakes
  have hbrace : '\x7b' ∉ w := fun hmem => absurd (hw _ hmem) (by decide)
  obtain ⟨rfl, -, rfl⟩ := (List.append_cons_inj_of_notMem hbrace (by simp)).1 htail
  exact htakes

/-- The brace behind the parameters is taken by one rule only. -/
theorem shown_brace (h : Heads accessor name params) {w : Text} (hw : ∀ x ∈ w, Text.isBlank x = true)
    {base : Level} (hpos : Text.InPart (heading accessor name params ++ w) ['\x7b'] pos) :
    (actionScriptOn base).shown (heading accessor name params ++ (w ++ ['\x7b'])) .normal pos =
      some .warning := by
  have htext : heading accessor name params ++ (w ++ ['\x7b']) =
      (heading accessor name params ++ w) ++ (['\x7b'] ++ []) := by
    simp
  have hrule : missingReturnType ∈ (actionScriptOn base).rules.rules :=
    List.mem_append_right _ (mem_catalog.2 (by simp))
  rw [Engine.shown_eq, Engine.marked, scanned_of_plain (h.not_openingSign (not_openingSign_of_blanks hw))]
  refine RuleSet.categoryAt?_apply_of_takes hrule (.head _) htext (h.takes_brace hw)
    (by simp [Markup.blank, Markup.length]) (fun _ _ => Markup.categoryAt?_blank _ _) ?_ hpos
  intro rule' hrule' hl' hhl' pre' part' post' pos' htext' htakes' hin hin'
  rcases groupsAvoid_brace base rule' hrule' with ⟨havoid, hgroups⟩ | rfl
  · obtain ⟨y, hy, hy'⟩ := Text.exists_mem_of_meet (htext.symm.trans htext') hin hin'
    obtain rfl := List.mem_singleton.1 hy
    exact absurd hy' (htakes'.not_mem (hgroups hl' hhl') havoid)
  · obtain rfl := List.mem_singleton.1 hhl'
    obtain ⟨blanks, -, rfl, rfl, hrest⟩ := h.part_of_warning (close_not_mem_of_blanks hw) htext' htakes'
    have hbrace : '\x7b' ∉ w := fun hmem => absurd (hw _ hmem) (by decide)
    obtain ⟨rfl, -, rfl⟩ := (List.append_cons_inj_of_notMem hbrace (by simp)).1 hrest
    exact ⟨rfl, rfl, rfl⟩

end Heads

/-! ## Headings with and without a return type -/

/-- All bytes of a part of a line are shown in a category. -/
def Shows (base : Level) (text pre part : Text) (category : Category) : Prop :=
  ∀ pos, Text.InPart pre part pos → (actionScriptOn base).shown text .normal pos = some category

/-- The word of functions and the accessor are shown as keywords, the name as that of a function. -/
structure ShowsHeading (base : Level) (accessor : Option Text) (name text : Text) : Prop where
  word : Shows base text [] functionWord .keyword
  accessorWord : ∀ a ∈ accessor, Shows base text (functionWord ++ [' ']) a .keyword
  name : Shows base text (beforeName accessor) name .functionName

theorem Heads.showsHeading (h : Heads accessor name params) (htail : ∀ x ∈ tail, x ∉ openingSigns)
    (base : Level) : ShowsHeading base accessor name (heading accessor name params ++ tail) := by
  refine ⟨fun pos hpos => ?_, fun a ha pos hpos => h.shown_accessor (.accessor ha) hpos,
    fun pos hpos => ?_⟩
  · exact h.shown_of_part htail .word (by simp) (by simp) hpos
  · cases accessor with
    | none => exact h.shown_name htail hpos
    | some a => exact h.shown_of_part htail .name (by simp) (fun _ => rfl) hpos

/-- A return type and the brace behind it. -/
def typed (w₁ w₂ type w₃ : Text) : Text := w₁ ++ ':' :: (w₂ ++ (type ++ (w₃ ++ ['\x7b'])))

section

variable {w₁ w₂ w₃ type : Text}

theorem not_mem_typed {x : Char} (hblanks : ∀ x ∈ w₁ ++ (w₂ ++ w₃), Text.isBlank x = true)
    (htype : typeExpression.Matches type) (hblank : Text.isBlank x = false) (hx : x ∉ [':', '\x7b'])
    (havoids : typeExpression.avoids x = true) : x ∉ typed w₁ w₂ type w₃ := by
  have hnot : x ∉ w₁ ++ (w₂ ++ w₃) := fun hmem => by
    rw [hblanks x hmem] at hblank
    cases hblank
  have hin : x ∉ type := htype.not_mem havoids
  simp only [List.mem_append, List.mem_cons, List.not_mem_nil, or_false, not_or] at hnot hx
  simp [typed, hnot, hx, hin]

/-- The brace behind a return type does not come next behind the parameters. -/
theorem typed_ne_brace {blanks post : Text} (hw₁ : ∀ x ∈ w₁, Text.isBlank x = true)
    (hblanks : ∀ x ∈ blanks, Text.isBlank x = true) :
    typed w₁ w₂ type w₃ ≠ blanks ++ '\x7b' :: post := by
  have hsigns : ∀ x ∈ [':', '\x7b'], Text.isBlank x = false := by decide
  intro heq
  obtain ⟨-, hrest⟩ := eq_of_heads hw₁ hblanks (by simpa using hsigns ':' (by simp))
    (by simpa using hsigns '\x7b' (by simp)) heq
  simp at hrest

end

/-- A named function shows its word and its name, and an accessor its word too. With a return type all of
the type is shown as one and nothing of the line as a warning; without one the brace is. -/
theorem function_headings_shown (base : Level) (accessor : Option Text) (name params : Text)
    (h : Heads accessor name params) :
    (∀ w₁ w₂ type w₃, (∀ x ∈ w₁ ++ (w₂ ++ w₃), Text.isBlank x = true) → typeExpression.Matches type →
      ShowsHeading base accessor name (heading accessor name params ++ typed w₁ w₂ type w₃) ∧
      Shows base (heading accessor name params ++ typed w₁ w₂ type w₃)
        (heading accessor name params ++ (w₁ ++ ':' :: w₂)) type .typeName ∧
      ∀ pos, (actionScriptOn base).shown (heading accessor name params ++ typed w₁ w₂ type w₃)
        .normal pos ≠ some .warning) ∧
    ∀ w, (∀ x ∈ w, Text.isBlank x = true) →
      ShowsHeading base accessor name (heading accessor name params ++ (w ++ ['\x7b'])) ∧
      Shows base (heading accessor name params ++ (w ++ ['\x7b']))
        (heading accessor name params ++ w) ['\x7b'] .warning := by
  constructor
  · intro w₁ w₂ type w₃ hblanks htype
    obtain ⟨hw₁, hw⟩ := List.forall_mem_append.1 hblanks
    obtain ⟨hw₂, hw₃⟩ := List.forall_mem_append.1 hw
    have hsigns : ∀ x ∈ openingSigns, Text.isBlank x = false ∧ x ∉ [':', '\x7b'] ∧
        typeExpression.avoids x = true := by
      decide +kernel
    have htail : ∀ x ∈ typed w₁ w₂ type w₃, x ∉ openingSigns := fun x hx hsign =>
      not_mem_typed hblanks htype (hsigns x hsign).1 (hsigns x hsign).2.1 (hsigns x hsign).2.2 hx
    have hclose : ')' ∉ typed w₁ w₂ type w₃ :=
      not_mem_typed hblanks htype (by decide) (by decide) (by decide +kernel)
    refine ⟨h.showsHeading htail base, fun pos hpos => ?_,
      h.not_warning htail hclose (fun _ _ => typed_ne_brace hw₁) base⟩
    have htakes := h.takes_type hw₁ hw₂ hw₃ (matches_typeExpression_iff.1 htype)
    have hline : heading accessor name params ++ typed w₁ w₂ type w₃ =
        (heading accessor name params ++ (w₁ ++ ':' :: w₂)) ++ (type ++ (w₃ ++ ['\x7b'])) := by
      simp [typed]
    rw [hline]
    exact shown_actionScriptOn_of_returnType
      ⟨functionDeclaration, mem_catalog.2 (by simp), rfl, Rule.inGroup_of_takes htakes hpos⟩
  · intro w hw
    exact ⟨h.showsHeading (not_openingSign_of_blanks hw) base, fun pos hpos => h.shown_brace hw hpos⟩

/-- A getter with a return type, and a function named by a reserved word without one. -/
theorem function_headings_shown_getter :
    (actionScript.shown "function get size(a:int): void \x7b".toList .normal 9 = some .keyword ∧
      actionScript.shown "function get size(a:int): void \x7b".toList .normal 13 = some .functionName ∧
      actionScript.shown "function get size(a:int): void \x7b".toList .normal 26 = some .typeName ∧
      actionScript.shown "function get size(a:int): void \x7b".toList .normal 31 ≠ some .warning) ∧
    actionScript.shown "function void(a)\x7b".toList .normal 9 = some .functionName ∧
      actionScript.shown "function void(a)\x7b".toList .normal 16 = some .warning := by
  have hgetter : Heads (some "get".toList) "size".toList "a:int".toList :=
    ⟨by decide +kernel, by decide, by decide, by decide +kernel, by decide, by decide⟩
  have hfunction : Heads none "void".toList "a".toList :=
    ⟨by decide +kernel, by decide, by decide, by decide, by decide, by decide⟩
  have hvoid : typeExpression.Matches "void".toList :=
    matches_typeExpression_iff.2 (.name (.one (by decide +kernel)))
  obtain ⟨htyped, -⟩ := function_headings_shown .three _ _ _ hgetter
  obtain ⟨-, huntyped⟩ := function_headings_shown .three _ _ _ hfunction
  obtain ⟨hheading, htype, hnone⟩ := htyped [] [' '] "void".toList [' '] (by decide) hvoid
  obtain ⟨hname, hbrace⟩ := huntyped [] (by decide)
  have htext : "function get size(a:int): void \x7b".toList =
      heading (some "get".toList) "size".toList "a:int".toList ++ typed [] [' '] "void".toList [' '] := by
    decide
  have htext' : "function void(a)\x7b".toList =
      heading none "void".toList "a".toList ++ ([] ++ ['\x7b']) := by
    decide
  rw [htext, htext']
  exact ⟨⟨hheading.accessorWord _ rfl 9 ⟨by decide, by decide⟩, hheading.name 13 ⟨by decide, by decide⟩,
    htype 26 ⟨by decide, by decide⟩, hnone 31⟩, hname.name 9 ⟨by decide, by decide⟩,
    hbrace 16 ⟨by decide, by decide⟩⟩

end Highlighter.Script
