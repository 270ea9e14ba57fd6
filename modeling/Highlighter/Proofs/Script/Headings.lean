import Highlighter.Proofs.Script.Lines

/-!
Headings of named functions, accessors among them, and what the rules take of them up to the parameters.
One match from the start of the line tells the word, the accessor and the name. What other rules take
there are whole words, or it stands behind a sign that no heading has.
-/
namespace Highlighter.Script

open Pattern

variable {accessor : Option Text} {name params tail pre part post : Text}

/-- The heading of a function with its parameters; an accessor's name is not reserved. -/
structure Heads (accessor : Option Text) (name params : Text) : Prop where
  isName : IsName name
  ne_import : name ≠ "import".toList
  accessor_mem : ∀ a ∈ accessor, String.ofList a ∈ ["get", "set"]
  plain : accessor.isSome → String.ofList name ∉ reservedWords
  not_close : ')' ∉ params
  not_opening : ∀ x ∈ params, x ∉ openingSigns

def modifier : Option Text → Text
  | none => []
  | some a => a ++ [' ']

/-- What stands before the name. -/
def beforeName (accessor : Option Text) : Text := functionWord ++ ' ' :: modifier accessor

def heading (accessor : Option Text) (name params : Text) : Text :=
  beforeName accessor ++ (name ++ '(' :: (params ++ [')']))

def returnPart : Pattern := opt (concat [gap, Pattern.text ":", gap, group 4 typeExpression])

theorem functionDeclaration_pattern : functionDeclaration.pattern =
    concat [wordBoundary, group 1 (literal functionWord), space,
      opt (concat [group 2 (firstOf [Pattern.text "get", Pattern.text "set"]), space]),
      group 3 identifier, gap, parameters, returnPart] :=
  rfl

/-! ## The match -/

section

variable {before rest t : Text} {caps : Captures}

theorem first_parameters (ht : ')' ∉ t) :
    parameters.ways.First (.between before ('(' :: (t ++ ')' :: rest))) caps
      (.between (')' :: (t.reverse ++ '(' :: before)) rest, caps) := by
  have hinner : (star (char (.noneOf [')']))).ways.First
      (.between ('(' :: before) (t ++ ')' :: rest)) caps
      (.between (t.reverse ++ '(' :: before) (')' :: rest), caps) :=
    first_star_char (fun x hx => by simpa [CharClass.contains_noneOf] using ne_of_mem_of_not_mem hx ht)
      (by simp [CharClass.noneOf, CharClass.oneOf, CharClass.contains])
  exact first_concat_cons (first_literal ['(']) <| first_concat_cons hinner <|
    first_concat_cons (first_literal [')']) first_concat_nil

end

/-- What the groups of the match take up to the parameters. -/
inductive HeadingPart (accessor : Option Text) (name params tail : Text) :
    Nat → Text → Text → Text → Prop
  | word : HeadingPart accessor name params tail 1 [] functionWord
      (' ' :: (modifier accessor ++ (name ++ '(' :: (params ++ ')' :: tail))))
  | accessor {a : Text} (ha : a ∈ accessor) : HeadingPart accessor name params tail 2
      (functionWord ++ [' ']) a (' ' :: (name ++ '(' :: (params ++ ')' :: tail)))
  | name : HeadingPart accessor name params tail 3 (beforeName accessor) name
      ('(' :: (params ++ ')' :: tail))

theorem HeadingPart.text {index : Nat} (h : HeadingPart accessor name params tail index pre part post) :
    heading accessor name params ++ tail = pre ++ (part ++ post) := by
  cases h with
  | word => simp [heading, beforeName]
  | accessor ha =>
      obtain rfl := Option.mem_def.1 ha
      simp [heading, beforeName, modifier]
  | name => simp [heading]

theorem HeadingPart.cases {index : Nat} (h : HeadingPart accessor name params tail index pre part post) :
    (index = 1 ∧ part = functionWord) ∨ (index = 2 ∧ part ∈ accessor) ∨
      (index = 3 ∧ pre = beforeName accessor ∧ part = name) := by
  cases h with
  | word => exact .inl ⟨rfl, rfl⟩
  | accessor ha => exact .inr (.inl ⟨rfl, ha⟩)
  | name => exact .inr (.inr ⟨rfl, rfl, rfl⟩)

theorem HeadingPart.blank_before {index : Nat}
    (h : HeadingPart accessor name params tail index pre part post) : ∀ x ∈ pre.getLast?, x = ' ' := by
  cases h with
  | word => simp
  | accessor ha => simp
  | name =>
      obtain ⟨s, hs⟩ : ∃ s, beforeName accessor = s ++ [' '] := by
        cases accessor with
        | none => exact ⟨functionWord, rfl⟩
        | some a => exact ⟨functionWord ++ ' ' :: a, by simp [beforeName, modifier]⟩
      rw [hs, List.getLast?_concat]
      simp

def accessorPart : Pattern :=
  concat [group 2 (firstOf (["get", "set"].map Pattern.text)), space]

namespace Heads

theorem isPlain_accessor (h : Heads accessor name params) : ∀ a ∈ accessor, IsPlain a := by
  have hplain : ∀ w ∈ ["get", "set"], IsPlain w.toList := by decide
  intro a ha
  simpa using hplain _ (h.accessor_mem a ha)

theorem not_mem_beforeName (h : Heads accessor name params) {x : Char} (hx : Text.isWord x = false)
    (hne : x ≠ ' ') : x ∉ beforeName accessor := by
  have hnot : ∀ {w : Text}, IsPlain w → x ∉ w := fun hplain hmem => by
    rw [hplain.2 x hmem] at hx
    cases hx
  cases accessor with
  | none => simp [beforeName, modifier, hnot isPlain_functionWord, hne]
  | some a =>
      simp [beforeName, modifier, hnot isPlain_functionWord, hnot (h.isPlain_accessor a rfl), hne]

theorem ways_accessorPart (h : Heads accessor name params) {before rest : Text} {caps : Captures} :
    accessorPart.ways (.between before (name ++ '(' :: rest)) caps = [] := by
  have hrun : Text.IsRun Text.isWord [] name ('(' :: rest) := ⟨h.isName.word, by simp, by simp; decide⟩
  refine List.eq_nil_iff_forall_not_mem.2 fun r hr => ?_
  obtain ⟨_, hgroup, hspace⟩ := mem_ways_concat_cons.1 hr
  obtain ⟨_, _, hword, rfl⟩ := mem_ways_group.1 hgroup
  obtain ⟨word, tail, hmem, htext, heq⟩ := mem_ways_firstOf_text.1 hword
  obtain ⟨rfl, -⟩ := Prod.ext_iff.1 heq
  obtain ⟨_, hway, -⟩ := mem_ways_concat_cons.1 hspace
  obtain ⟨x, blanks, tail', hblanks, hx, -⟩ := mem_ways_space.1 hway
  obtain rfl : tail = x :: (blanks ++ tail') := hblanks
  have hplain : ∀ w ∈ ["get", "set"], IsPlain w.toList := by decide
  have hwords : ∀ c ∈ word, Text.isWord c = true := by
    simpa using (hplain _ hmem).2
  obtain ⟨more, hname, hrest⟩ := hrun.exists_of_append htext.symm hwords
  cases more with
  | nil =>
      obtain ⟨rfl, -⟩ : x = '(' ∧ _ := by simpa using hrest
      revert hx
      decide
  | cons y more =>
      obtain ⟨rfl, -⟩ : x = y ∧ _ := by simpa using hrest
      have hword := h.isName.word x (by simp [hname])
      rw [Text.isWord_of_isBlank hx] at hword
      cases hword

theorem first_accessorPart {a before rest : Text} {caps : Captures}
    (ha : String.ofList a ∈ ["get", "set"]) (hrest : ∀ x ∈ rest.head?, Text.isBlank x = false) :
    accessorPart.ways.First (.between before (a ++ ' ' :: rest)) caps
      (.between (' ' :: (a.reverse ++ before)) rest,
        ⟨2, .between before (a ++ ' ' :: rest), .between (a.reverse ++ before) (' ' :: rest)⟩ ::
          caps) := by
  have hword : (firstOf (["get", "set"].map Pattern.text)).ways.First (.between before (a ++ ' ' :: rest))
      caps (.between (a.reverse ++ before) (' ' :: rest), caps) := by
    simp only [List.mem_cons, List.not_mem_nil, or_false] at ha
    rcases ha with ha | ha
    · obtain rfl : a = "get".toList := by rw [← ha, String.toList_ofList]
      exact .orElse_left (first_literal _)
    · obtain rfl : a = "set".toList := by rw [← ha, String.toList_ofList]
      exact .orElse_right (ways_literal_eq_nil (by simp)) (first_literal _)
  exact first_concat_cons (first_group hword) (first_concat_cons (first_space hrest) first_concat_nil)

end Heads

/-- The group of the accessor in front of a rest of the line. -/
def accessorCapture (rest : Text) : Option Text → Captures
  | none => []
  | some a => [⟨2, .between (' ' :: functionWord.reverse) (a ++ ' ' :: rest),
      .between (a.reverse ++ ' ' :: functionWord.reverse) (' ' :: rest)⟩]

/-- The groups that a match has passed in front of a rest of the line, behind the name. -/
def headingCaptures (accessor : Option Text) (name rest : Text) : Captures :=
  ⟨3, .between (beforeName accessor).reverse (name ++ rest),
    .between (name.reverse ++ (beforeName accessor).reverse) rest⟩ ::
  (accessorCapture (name ++ rest) accessor ++
    [⟨1, .between [] (functionWord ++ ' ' :: (modifier accessor ++ (name ++ rest))),
      .between functionWord.reverse (' ' :: (modifier accessor ++ (name ++ rest)))⟩])

theorem HeadingPart.find?_captures {index : Nat}
    (h : HeadingPart accessor name params tail index pre part post) :
    (headingCaptures accessor name ('(' :: (params ++ ')' :: tail))).find? (·.index == index) =
      some ⟨index, .between pre.reverse (part ++ post),
        .between (part.reverse ++ pre.reverse) post⟩ := by
  cases h with
  | word => cases accessor <;> simp [headingCaptures, accessorCapture]
  | accessor ha =>
      obtain rfl := Option.mem_def.1 ha
      simp [headingCaptures, accessorCapture]
  | name => simp [headingCaptures]

namespace Heads

/-- A match goes on from the parameters in the way that is preferred there. -/
theorem first_heading (h : Heads accessor name params) {r : Cursor × Captures}
    (hr : returnPart.ways.First (.between (heading accessor name params).reverse tail)
      (headingCaptures accessor name ('(' :: (params ++ ')' :: tail))) r) :
    functionDeclaration.pattern.ways.First (.start (heading accessor name params ++ tail)) [] r := by
  have hboundary : Anchor.wordBoundary.holds (.start (heading accessor name params ++ tail)) = true :=
    isPlain_functionWord.wordBoundary_start
  have hname : IsIdentifier name := h.isName.identifier
  have hblank : ∀ x ∈ (name ++ '(' :: (params ++ ')' :: tail)).head?, Text.isBlank x = false :=
    (Dotted.one hname).no_blank_before
  have hspaced : ∀ x ∈ (modifier accessor ++ (name ++ '(' :: (params ++ ')' :: tail))).head?,
      Text.isBlank x = false := by
    cases accessor with
    | none => exact hblank
    | some a =>
        rw [modifier, List.append_assoc]
        exact (h.isPlain_accessor a rfl).no_blank_before
  have haccessor : ∀ caps, (opt accessorPart).ways.First
      (.between (' ' :: functionWord.reverse)
        (modifier accessor ++ (name ++ '(' :: (params ++ ')' :: tail)))) caps
      (.between (beforeName accessor).reverse (name ++ '(' :: (params ++ ')' :: tail)),
        accessorCapture (name ++ '(' :: (params ++ ')' :: tail)) accessor ++ caps) := by
    intro caps
    cases accessor with
    | none => exact first_opt_none h.ways_accessorPart
    | some a =>
        have hpart := @first_accessorPart a (' ' :: functionWord.reverse) _ caps
          (h.accessor_mem a rfl) hblank
        simpa [modifier, beforeName, accessorCapture] using first_opt_some hpart
  have hgap := fun before caps => @first_gap caps before ('(' :: (params ++ ')' :: tail)) [] (by simp)
    (by simp; decide)
  have htext : .start (heading accessor name params ++ tail) = Cursor.between []
      (functionWord ++ ' ' :: (modifier accessor ++ (name ++ '(' :: (params ++ ')' :: tail)))) := by
    simp [Cursor.start, heading, beforeName]
  have hlast : (heading accessor name params).reverse =
      ')' :: (params.reverse ++ '(' :: (name.reverse ++ (beforeName accessor).reverse)) := by
    simp [heading]
  rw [hlast] at hr
  rw [functionDeclaration_pattern, htext]
  rw [htext] at hboundary
  exact first_concat_cons (first_anchor hboundary) <|
    first_concat_cons (first_group (first_literal functionWord)) <|
    first_concat_cons (first_space hspaced) <| first_concat_cons (haccessor _) <|
    first_concat_cons (first_group (first_identifier hname (by simpa using identifierRest_paren))) <|
    first_concat_cons (hgap _ _) <| first_concat_cons (first_parameters h.not_close) <|
    first_concat_cons hr first_concat_nil

theorem takes (h : Heads accessor name params) {index : Nat}
    (hpart : HeadingPart accessor name params tail index pre part post) :
    functionDeclaration.pattern.Takes index pre part post := by
  have hindex : index ≠ 0 ∧ returnPart.hasIndex index = false := by
    cases hpart <;> decide
  obtain ⟨r, hr⟩ : ∃ r, returnPart.ways.First (.between (heading accessor name params).reverse tail)
      (headingCaptures accessor name ('(' :: (params ++ ')' :: tail))) r := by
    have hne : returnPart.ways (.between (heading accessor name params).reverse tail)
        (headingCaptures accessor name ('(' :: (params ++ ')' :: tail))) ≠ [] :=
      List.ne_nil_of_mem (mem_ways_opt.2 (.inr rfl))
    exact ⟨_, List.head?_eq_some_head hne⟩
  have hfirst := h.first_heading hr
  rw [hpart.text] at hfirst
  refine takes_of_first hindex.1 hfirst ?_
  rw [ways_unrecorded returnPart hindex.2 _ _ _ (List.mem_of_head? hr)]
  exact hpart.find?_captures

/-! ### The whole words of the line -/

theorem isRun (h : Heads accessor name params) {index : Nat}
    (hpart : HeadingPart accessor name params tail index pre part post) :
    Text.IsRun Text.isWord pre part post := by
  have hspace : Text.isWord ' ' = false := by decide
  have hparen : Text.isWord '(' = false := by decide
  have hbefore : ∀ x ∈ pre.getLast?, Text.isWord x = false := by
    intro x hx
    rw [hpart.blank_before x hx, hspace]
  cases hpart with
  | word => exact ⟨isPlain_functionWord.2, hbefore, by simpa using hspace⟩
  | accessor ha => exact ⟨(h.isPlain_accessor _ ha).2, hbefore, by simpa using hspace⟩
  | name => exact ⟨h.isName.word, hbefore, by simpa using hparen⟩

/-- The whole words that begin before the end of the name. -/
theorem exists_part_of_run (h : Heads accessor name params)
    (htext : heading accessor name params ++ tail = pre ++ (part ++ post))
    (hrun : Text.IsRun Text.isWord pre part post)
    (hlt : pre.byteLength < (beforeName accessor ++ name).byteLength) :
    ∃ index, HeadingPart accessor name params tail index pre part post := by
  have hname : ∀ before {mid}, name ++ '(' :: (params ++ ')' :: tail) = mid ++ (part ++ post) →
      Text.IsRun Text.isWord mid part post → pre = before ++ mid → before = beforeName accessor →
      ∃ index, HeadingPart accessor name params tail index pre part post := by
    rintro before mid hmid hside rfl rfl
    rcases hside.side hmid.symm (by decide) with ⟨more, hin, hpost, hrun'⟩ | ⟨more, rfl, -, -⟩
    · obtain ⟨rfl, rfl, rfl⟩ := hrun'.eq_of_all hin.symm h.isName.word
      refine ⟨3, ?_⟩
      rw [hpost, List.append_nil, List.nil_append]
      exact .name
    · simp only [Text.byteLength_append] at hlt
      omega
  have hline : pre ++ (part ++ post) =
      functionWord ++ ' ' :: (modifier accessor ++ (name ++ '(' :: (params ++ ')' :: tail))) := by
    rw [← htext]
    simp [heading, beforeName]
  rcases hrun.side hline (by decide) with ⟨more, hin, hpost, hside⟩ | ⟨mid, rfl, hmid, hside⟩
  · obtain ⟨rfl, rfl, rfl⟩ := hside.eq_of_all hin.symm isPlain_functionWord.2
    refine ⟨1, ?_⟩
    rw [hpost]
    exact .word
  cases accessor with
  | none => exact hname (functionWord ++ [' ']) hmid hside (by simp) rfl
  | some a =>
      have hmid' : mid ++ (part ++ post) = a ++ ' ' :: (name ++ '(' :: (params ++ ')' :: tail)) := by
        simpa [modifier] using hmid.symm
      rcases hside.side hmid' (by decide) with ⟨more, hin, hpost, hside'⟩ | ⟨mid', rfl, hmid', hside'⟩
      · obtain ⟨rfl, rfl, rfl⟩ := hside'.eq_of_all hin.symm (h.isPlain_accessor a rfl).2
        refine ⟨2, ?_⟩
        rw [hpost]
        exact .accessor rfl
      · exact hname (functionWord ++ ' ' :: (a ++ [' '])) hmid' hside' (by simp) rfl

/-! ### The rules for headings -/

/-- Behind the word of functions comes an identifier, the accessor or the name. -/
theorem exists_behind (h : Heads accessor name params) (tail : Text) :
    IsIdentifier (accessor.getD name) ∧ ∃ behind,
      heading accessor name params ++ tail = functionWord ++ ' ' :: (accessor.getD name ++ behind) ∧
        ∀ x ∈ behind.head?, identifierRest.contains x = false := by
  cases accessor with
  | none =>
      exact ⟨h.isName.identifier, '(' :: (params ++ ')' :: tail), by simp [heading, beforeName, modifier],
        by simpa using identifierRest_paren⟩
  | some a =>
      have hstart : ∀ w ∈ ["get", "set"], IsIdentifier w.toList := by decide +kernel
      have ha : IsIdentifier a := by simpa using hstart _ (h.accessor_mem a rfl)
      exact ⟨ha, ' ' :: (name ++ '(' :: (params ++ ')' :: tail)), by simp [heading, beforeName, modifier],
        by simpa using identifierRest_space⟩

theorem part_of_heading (h : Heads accessor name params)
    (htext : heading accessor name params ++ tail = pre ++ (part ++ post))
    (htakes : functionHeading.pattern.Takes 1 pre part post) :
    pre = functionWord ++ [' '] ∧ part = accessor.getD name := by
  obtain ⟨hword, behind, hline, hbehind⟩ := h.exists_behind tail
  have hrun : Text.IsRun Text.isWord [] functionWord (' ' :: (accessor.getD name ++ behind)) :=
    ⟨isPlain_functionWord.2, by simp, by simp; decide⟩
  obtain ⟨more, rfl, hmore, -, caps, caps', hfirst⟩ := functionHeading_takes htakes
    (htext.symm.trans hline) hrun isPlain_functionWord.1 (by decide)
  have hrest : more ++ (part ++ post) = ' ' :: (accessor.getD name ++ behind) := by
    rw [htext] at hline
    simpa using hline
  obtain ⟨y, hy, hstart⟩ := hword.starts
  obtain ⟨word, hword'⟩ := List.head?_eq_some_iff.1 hy
  cases more with
  | nil =>
      -- an identifier does not begin with the blank
      obtain ⟨t, rest, -, ht, heq⟩ := mem_ways_identifier.1 (List.mem_of_head? hfirst)
      obtain ⟨rfl, -⟩ := Cursor.between_append_inj.1 (Prod.ext_iff.1 heq).1
      obtain ⟨z, hz, hstart'⟩ := ht.starts
      obtain ⟨tail', rfl⟩ := List.head?_eq_some_iff.1 hz
      obtain ⟨rfl, -⟩ : z = ' ' ∧ _ := by simpa using hrest
      exact absurd hstart' (by decide +kernel)
  | cons z more =>
      obtain ⟨rfl, hmid⟩ : z = ' ' ∧ more ++ (part ++ post) = accessor.getD name ++ behind := by
        simpa using hrest
      have hkind : ∀ x ∈ more, (Text.isBlank x || x == '*') = true :=
        fun x hx => by simpa using hmore x (by simp [hx])
      have hnot : ∀ x ∈ (accessor.getD name ++ behind).head?, (Text.isBlank x || x == '*') = false := by
        have hblank := isBlank_of_identifierRest (identifierRest_of_start hstart)
        have hstar : y ≠ '*' := by
          rintro rfl
          rw [identifierStart_star] at hstart
          cases hstart
        simp [hword', hblank, hstar]
      obtain ⟨rfl, hpart⟩ := eq_nil_of_head hkind hmid hnot
      obtain ⟨rfl, -⟩ := part_eq_of_first hfirst (first_identifier hword hbehind) hpart
      exact ⟨rfl, rfl⟩

/-- A part at the start of the line is no name in front of a colon or an equals sign. -/
theorem not_beginsWith (h : Heads accessor name params) {sign : Char}
    (hsign : sign ∉ ' ' :: functionWord) (hrest : identifierRest.contains sign = false)
    (htext : heading accessor name params ++ tail = part ++ post) (hspace : ' ' ∉ part) :
    ¬ BeginsWith sign post := by
  obtain ⟨hword, behind, hline, -⟩ := h.exists_behind tail
  obtain ⟨y, hy, hstart⟩ := hword.starts
  obtain ⟨word, hword'⟩ := List.head?_eq_some_iff.1 hy
  have hy' := identifierRest_of_start hstart
  have hinside : ∀ x ∈ functionWord, Text.isBlank x = false :=
    fun x hx => isBlank_of_isWord (isPlain_functionWord.2 x hx)
  rintro ⟨blanks, rest, rfl, hblanks⟩
  rw [htext, hword'] at hline
  rcases part_cases ((List.nil_append _).trans hline) hspace with ⟨mid, hfunction, hmid⟩ | ⟨mid, hnil, -⟩
  · cases mid with
    | nil =>
        obtain ⟨rfl, hbehind⟩ := eq_singleton_of_blanks (s := y :: word ++ behind)
          (fun hnil => hsign (by simp [hnil] at hmid; simp [hmid.1])) hblanks hmid
          (by simpa using isBlank_of_identifierRest hy')
        obtain ⟨rfl, -⟩ : sign = y ∧ _ := by simpa using hbehind
        rw [hrest] at hy'
        cases hy'
    | cons z mid =>
        have hz : z ∈ functionWord := by simp [hfunction]
        obtain ⟨-, hbehind⟩ := eq_nil_of_head hblanks hmid (by simpa using hinside z hz)
        obtain ⟨rfl, -⟩ : sign = z ∧ _ := by simpa using hbehind
        exact hsign (.tail _ hz)
  · simp at hnil

theorem eq_nil_of_blanks (h : Heads accessor name params)
    (htext : heading accessor name params ++ tail = pre ++ post)
    (hpre : ∀ x ∈ pre, Text.isBlank x = true) : pre = [] := by
  obtain ⟨-, behind, hline, -⟩ := h.exists_behind tail
  have hhead : ∀ x ∈ (heading accessor name params ++ tail).head?, Text.isBlank x = false := by
    rw [hline]
    exact isPlain_functionWord.no_blank_before
  exact (eq_nil_of_head hpre htext.symm hhead).1

/-- What the rules for headings and imports take. -/
theorem headings_takes (h : Heads accessor name params) {rule : Rule} (hrule : rule ∈ headings.rules)
    {hl : Highlight} (hhl : hl ∈ rule.highlights)
    (htext : heading accessor name params ++ tail = pre ++ (part ++ post))
    (htakes : rule.pattern.Takes hl.group pre part post) :
    (Text.IsRun Text.isWord pre part post ∧ String.ofList part = "import" ∧ hl.category = .keyword) ∨
      (pre = functionWord ++ [' '] ∧ part = accessor.getD name ∧ hl.category = .functionName) := by
  rcases mem_headings.1 hrule with rfl | rfl | rfl | rfl
  · obtain rfl := List.mem_singleton.1 hhl
    obtain ⟨hword, hrun⟩ := takes_word ["import"] (by decide) htakes
    exact .inl ⟨hrun, List.mem_singleton.1 hword, rfl⟩
  · obtain rfl := List.mem_singleton.1 hhl
    obtain ⟨hpre, hpart⟩ := h.part_of_heading htext htakes
    exact .inr ⟨hpre, hpart, rfl⟩
  · obtain rfl := List.mem_singleton.1 hhl
    have hspace : ' ' ∉ part := htakes.not_mem (by decide) (by decide +kernel)
    obtain ⟨hpre, hbegins, -⟩ := functionProperty_takes htakes
    obtain rfl := h.eq_nil_of_blanks htext hpre
    exact absurd hbegins (h.not_beginsWith (by decide) (by decide +kernel) htext hspace)
  · obtain rfl := List.mem_singleton.1 hhl
    have hspace : ' ' ∉ part := htakes.not_mem (by decide) (by decide +kernel)
    obtain ⟨⟨blanks, more, rfl, hblanks, hmore⟩, hbegins, -⟩ := functionAssignment_takes htakes
    obtain rfl := h.eq_nil_of_blanks (htext.trans (List.append_assoc ..)) hblanks
    have hnil : more = [] := by
      cases more with
      | nil => rfl
      | cons x more =>
          obtain ⟨-, behind, hline, -⟩ := h.exists_behind tail
          obtain ⟨word, hword⟩ : ∃ word, functionWord = 'f' :: word := ⟨"unction".toList, by decide⟩
          obtain ⟨rfl, -⟩ : x = 'f' ∧ _ := by
            rw [htext, hword] at hline
            simpa using hline
          exact absurd (hmore 'f' rfl) (by decide)
    subst hnil
    exact absurd hbegins (h.not_beginsWith (by decide) (by decide +kernel) htext hspace)

end Heads

theorem reserved_takes {rule : Rule} (hrule : rule ∈ reservedWordRules) {hl : Highlight}
    (hhl : hl ∈ rule.highlights) (htakes : rule.pattern.Takes hl.group pre part post) :
    Text.IsRun Text.isWord pre part post ∧ String.ofList part ∈ reservedWords ∧
      (part = functionWord → hl.category = .keyword) := by
  obtain ⟨hrun, ⟨hword, hcategory⟩ | ⟨hword, -⟩ | ⟨hword, -⟩⟩ := reservedWordRules_takes hrule hhl htakes
  · have hlisted := List.mem_append.1 hword
    exact ⟨hrun, mem_reservedWords.2 (by tauto), fun _ => hcategory⟩
  · refine ⟨hrun, mem_reservedWords.2 (.inr (.inl hword)), ?_⟩
    rintro rfl
    exact absurd hword (by decide)
  · refine ⟨hrun, mem_reservedWords.2 (.inr (.inr (.inl hword))), ?_⟩
    rintro rfl
    exact absurd hword (by decide)

theorem HeadingPart.stop_le {index : Nat}
    (h : HeadingPart accessor name params tail index pre part post) :
    (pre ++ part).byteLength ≤ (beforeName accessor ++ name).byteLength := by
  cases h with
  | word => simp [beforeName]
  | accessor ha =>
      obtain rfl := Option.mem_def.1 ha
      simp [beforeName, modifier]
  | name => exact Nat.le_refl _

namespace Heads

variable {pre' part' post' : Text} {pos index : Nat}

theorem not_ledBy (h : Heads accessor name params) {words : List String}
    (hwords : ∀ w ∈ words, w ∉ ["function", "get", "set"])
    (htext : heading accessor name params ++ tail = pre ++ (part ++ post)) (hled : LedBy words pre)
    (hlt : pre.byteLength < (beforeName accessor ++ name).byteLength) : False := by
  obtain ⟨head, word, blanks, hline, hword, hne, -, rfl, hrun⟩ := hled.exists_run htext
  have hlength := Text.byteLength_pos hne
  simp only [Text.byteLength_append] at hlt
  obtain ⟨index, hpart⟩ := h.exists_part_of_run hline hrun (by simp only [Text.byteLength_append]; omega)
  rcases hpart.cases with ⟨-, rfl⟩ | ⟨-, ha⟩ | ⟨-, rfl, rfl⟩
  · exact hwords _ hword (by decide)
  · exact hwords _ hword (.tail _ (h.accessor_mem _ ha))
  · omega

/-- A colon stands only behind the name. -/
theorem not_endsWith (h : Heads accessor name params)
    (htext : heading accessor name params ++ tail = pre ++ post) (hends : EndsWith ':' pre)
    (hlt : pre.byteLength < (beforeName accessor ++ name).byteLength) : False := by
  have hline : (beforeName accessor ++ name) ++ ('(' :: (params ++ ')' :: tail)) = pre ++ post := by
    rw [← htext]
    simp [heading]
  obtain ⟨mid, hmid, -⟩ := Text.exists_of_le_byteLength hline (Nat.le_of_lt hlt)
  have hcolon : ':' ∈ beforeName accessor ++ name := by
    rw [hmid]
    exact List.mem_append_left _ hends.mem
  rcases List.mem_append.1 hcolon with hcolon | hcolon
  · exact h.not_mem_beforeName (by decide) (by decide) hcolon
  · exact h.isName.not_mem (by decide) hcolon

theorem functionDeclaration_category {hl : Highlight} (hhl : hl ∈ functionDeclaration.highlights) :
    hl.group ≠ 0 ∧ (hl.group ≠ 4 → hl.category = if hl.group = 3 then .functionName else .keyword) := by
  have hall : ∀ hl ∈ functionDeclaration.highlights, hl.group ≠ 0 ∧
      (hl.group ≠ 4 → hl.category = if hl.group = 3 then .functionName else .keyword) := by
    decide
  exact hall hl hhl

/-- What the catalog takes of the word, of the accessor, or of an accessor's name, is the whole of it. -/
theorem catalog_takes (h : Heads accessor name params)
    (hpart : HeadingPart accessor name params tail index pre part post)
    (hindex : index = 3 → accessor.isSome) {rule : Rule} (hrule : rule ∈ catalog.rules) {hl : Highlight}
    (hhl : hl ∈ rule.highlights)
    (htext : heading accessor name params ++ tail = pre' ++ (part' ++ post'))
    (htakes : rule.pattern.Takes hl.group pre' part' post') (hpos : Text.InPart pre part pos)
    (hpos' : Text.InPart pre' part' pos) :
    pre' = pre ∧ part' = part ∧
      hl.category = if index = 3 then .functionName else .keyword := by
  have hline := hpart.text.symm.trans htext
  have hrun := h.isRun hpart
  have hne : index ≠ 0 ∧ index ≠ 4 := by
    rcases hpart.cases with ⟨rfl, -⟩ | ⟨rfl, -⟩ | ⟨rfl, -⟩ <;> decide
  have hsame : Text.IsRun Text.isWord pre' part' post' → pre' = pre ∧ part' = part :=
    fun hrun' => hrun'.unique hrun hline.symm hpos' hpos
  have hlt : pre'.byteLength < (beforeName accessor ++ name).byteLength :=
    Nat.lt_of_le_of_lt hpos'.1 (Nat.lt_of_lt_of_le hpos.2 hpart.stop_le)
  have hnone : ∀ x, Text.isWord x = false → part' ≠ [x] := by
    rintro x hx rfl
    obtain ⟨y, hy, hy'⟩ := Text.exists_mem_of_meet hline hpos hpos'
    obtain rfl := List.mem_singleton.1 hy'
    rw [hrun.inside y hy] at hx
    cases hx
  rcases mem_catalog.1 hrule with rfl | rfl | rfl | rfl | rfl | rfl | rfl | hmember
  -- words of the list
  · obtain rfl := List.mem_singleton.1 hhl
    obtain ⟨hrun', hword, -⟩ := reserved_takes (by simp [reservedWordRules]) (.head _) htakes
    obtain ⟨rfl, rfl⟩ := hsame hrun'
    refine ⟨rfl, rfl, ?_⟩
    rcases hpart.cases with ⟨rfl, -⟩ | ⟨rfl, -⟩ | ⟨rfl, -, rfl⟩
    · rfl
    · rfl
    · exact absurd hword (h.plain (hindex rfl))
  · obtain rfl := List.mem_singleton.1 hhl
    obtain rfl := restParameter_takes htakes
    obtain ⟨y, hy, hy'⟩ := Text.exists_mem_of_meet hline hpos hpos'
    obtain rfl : y = '.' := by simpa using hy'
    exact absurd (hrun.inside '.' hy) (by decide)
  -- types
  · obtain rfl := List.mem_singleton.1 hhl
    exact (h.not_endsWith htext (typeAnnotation_takes htakes).1 hlt).elim
  · obtain rfl := List.mem_singleton.1 hhl
    exact (h.not_ledBy (by decide) htext (typeOperand_takes htakes).1 hlt).elim
  -- named functions
  · have hin : functionDeclaration.InGroup index (pre' ++ (part' ++ post')) pos :=
      hline ▸ Rule.inGroup_of_takes (h.takes hpart) hpos
    have hgroup : hl.group = index := (Rule.inGroup_of_takes htakes hpos').eq_of_isFlat (by decide)
      (functionDeclaration_category hhl).1 hne.1 hin
    have htakes' := h.takes hpart
    rw [← hgroup] at htakes'
    obtain ⟨rfl, rfl⟩ := htakes.eq_of_meet htakes' hline.symm hpos' hpos
    exact ⟨rfl, rfl, hgroup ▸ (functionDeclaration_category hhl).2 (hgroup ▸ hne.2)⟩
  · obtain rfl := List.mem_singleton.1 hhl
    exact absurd (missingReturnType_takes htakes).1 (hnone '\x7b' (by decide))
  -- declarations
  · rcases List.mem_cons.1 hhl with rfl | hhl
    · obtain ⟨hword, hrun'⟩ := variableDeclaration_takes_word htakes
      obtain ⟨rfl, rfl⟩ := hsame hrun'
      rcases hpart.cases with ⟨-, rfl⟩ | ⟨-, ha⟩ | ⟨rfl, -, rfl⟩
      · exact absurd hword (by decide)
      · have hnot : ∀ w ∈ ["get", "set"], w ∉ declarationWords := by decide
        exact absurd hword (hnot _ (h.accessor_mem _ ha))
      · have hreserved : ∀ w ∈ declarationWords, w ∈ reservedWords := by decide +kernel
        exact absurd (hreserved _ hword) (h.plain (hindex rfl))
    · obtain rfl := List.mem_singleton.1 hhl
      exact (h.not_ledBy (by decide) htext (variableDeclaration_takes_name htakes).1 hlt).elim
  -- members
  · obtain ⟨-, hrun', hdot⟩ := memberRules_takes hmember hhl htakes
    obtain ⟨rfl, rfl⟩ := hsame hrun'
    exact absurd (hpart.blank_before '.' hdot) (by decide)

end Heads

end Highlighter.Script
