import Highlighter.Proofs.Script.Names

/-!
What stands around the groups that the rules for scripts take: words of a list, the words that lead to
a name or to a type, and the signs before and behind.
-/
namespace Highlighter

namespace Pattern

variable {pre part post : Text}

/-- What a rule for whole words takes is one of them, with no word character next to it. -/
theorem takes_wholeWord (lead : List Pattern) (words : List String)
    (hlead : ∀ p ∈ lead, p.hasGroup = false) (hplain : ∀ w ∈ words, IsPlain w.toList)
    (h : (concat (lead ++ [wholeWord words])).Takes 1 pre part post) :
    String.ofList part ∈ words ∧ Text.IsRun Text.isWord pre part post ∧
      ∃ first, (.between pre.reverse (part ++ post), []) ∈ (concat lead).ways first [] := by
  obtain ⟨m, hm, hgroup⟩ := h
  obtain ⟨pre', word, post', htext, hword, hgroup', hpre, hpost, hway⟩ :=
    exists_word_of_mem_findAll hlead hplain hm
  obtain ⟨hstart, hstop⟩ : pre.byteLength = pre'.byteLength ∧
      (pre ++ part).byteLength = (pre' ++ word).byteLength := by
    simpa [hgroup] using hgroup'
  obtain ⟨rfl, hrest⟩ := Text.eq_of_byteLength htext hstart
  obtain ⟨rfl, rfl⟩ := Text.eq_of_byteLength hrest (by simpa using hstop)
  have hword' : IsPlain part := by simpa using hplain _ hword
  exact ⟨hword, Script.isRun_isWord hword' hpre hpost, m.first, hway⟩

/-- As the rules for whole words without anything that leads to them. -/
theorem takes_word (words : List String) (hplain : ∀ w ∈ words, IsPlain w.toList)
    (h : (wholeWord words).Takes 1 pre part post) :
    String.ofList part ∈ words ∧ Text.IsRun Text.isWord pre part post := by
  obtain ⟨hword, hrun, -⟩ := takes_wholeWord [] words (by simp) hplain h
  exact ⟨hword, hrun⟩

theorem exists_takes_of_wholeWord (lead : List Pattern) {words : List String} {c : Cursor}
    {r : Cursor × Captures} (hlead : ∀ p ∈ lead, p.hasGroup = false)
    (hplain : ∀ w ∈ words, IsPlain w.toList)
    (hway : r ∈ (concat (lead ++ [wholeWord words])).ways c []) :
    ∃ pre part post, c.text = pre ++ (part ++ post) ∧
      (concat (lead ++ [wholeWord words])).Takes 1 pre part post := by
  obtain ⟨m, hm⟩ := exists_mem_findAll hway
  obtain ⟨pre, part, post, htext, -, hgroup, -⟩ := exists_word_of_mem_findAll hlead hplain hm
  exact ⟨pre, part, post, htext, m, htext ▸ hm, hgroup⟩

variable {c : Cursor} {word rest : Text}

theorem IsPlain.no_blank_before (hword : IsPlain word) :
    ∀ x ∈ (word ++ rest).head?, Text.isBlank x = false := fun x hx =>
  Script.isBlank_of_isWord (hword.isWord_head x hx)

/-- A word behind a word boundary and in front of another kind of character is a whole one. -/
theorem isRun_of_wordBoundary (hword : IsPlain word) (hrest : c.rest = word ++ rest)
    (hboundary : Anchor.wordBoundary.holds c = true) (hafter : ∀ x ∈ rest.head?, Text.isWord x = false) :
    Text.IsRun Text.isWord c.before.reverse word rest := by
  rw [← c.between_sides, hrest, hword.wordBoundary_first] at hboundary
  refine ⟨hword.2, ?_, hafter⟩
  rw [List.getLast?_reverse]
  exact Anchor.onWord_eq_false_iff.1 (by simpa using hboundary)

end Pattern

namespace Script

open Pattern

def importWord : Rule := headings.rules[0]

def functionHeading : Rule := headings.rules[1]

def functionProperty : Rule := headings.rules[2]

def functionAssignment : Rule := headings.rules[3]

def keywordWord : Rule := reserved.rules[0]

def basicTypeWord : Rule := reserved.rules[1]

def constantWord : Rule := reserved.rules[2]

def forEach : Rule := reserved.rules[3]

def addedKeywordWord : Rule := catalog.rules[0]

def restParameter : Rule := catalog.rules[1]

def typeAnnotation : Rule := catalog.rules[2]

def typeOperand : Rule := catalog.rules[3]

def functionDeclaration : Rule := catalog.rules[4]

def missingReturnType : Rule := catalog.rules[5]

def variableDeclaration : Rule := catalog.rules[6]

variable {pre part post text : Text} {c : Cursor} {caps : Captures} {r : Cursor × Captures}

/-! ## Words that lead to a name -/

/-- Characters of a kind do not begin a text that begins with another kind. -/
theorem eq_nil_of_head {kind : Char → Bool} {a rest s : Text} (ha : ∀ x ∈ a, kind x = true)
    (h : a ++ rest = s) (hs : ∀ x ∈ s.head?, kind x = false) : a = [] ∧ rest = s := by
  subst h
  cases a with
  | nil => exact ⟨rfl, rfl⟩
  | cons x a =>
      have hx := hs x rfl
      rw [ha x (by simp)] at hx
      cases hx

/-- What comes before a character of another kind is known by its kind. -/
theorem eq_of_heads {kind : Char → Bool} {a b s t : Text} (ha : ∀ x ∈ a, kind x = true)
    (hb : ∀ x ∈ b, kind x = true) (hs : ∀ x ∈ s.head?, kind x = false)
    (ht : ∀ x ∈ t.head?, kind x = false) (h : a ++ s = b ++ t) : a = b ∧ s = t := by
  rcases List.append_eq_append_iff.1 h with ⟨mid, rfl, hrest⟩ | ⟨mid, rfl, hrest⟩
  · obtain ⟨rfl, rfl⟩ := eq_nil_of_head (fun x hx => hb x (List.mem_append_right _ hx)) hrest.symm hs
    exact ⟨(List.append_nil _).symm, rfl⟩
  · obtain ⟨rfl, rfl⟩ := eq_nil_of_head (fun x hx => ha x (List.mem_append_right _ hx)) hrest.symm ht
    exact ⟨List.append_nil _, rfl⟩

theorem eq_singleton_of_blanks {blanks rest s : Text} {x : Char} (hne : blanks ≠ [])
    (hblanks : ∀ x ∈ blanks, Text.isBlank x = true) (h : blanks ++ rest = x :: s)
    (hs : ∀ x ∈ s.head?, Text.isBlank x = false) : blanks = [x] ∧ rest = s := by
  cases blanks with
  | nil => exact absurd rfl hne
  | cons y blanks =>
      obtain ⟨rfl, hrest⟩ : y = x ∧ blanks ++ rest = s := by simpa using h
      obtain ⟨rfl, rfl⟩ := eq_nil_of_head (List.forall_mem_cons.1 hblanks).2 hrest hs
      exact ⟨rfl, rfl⟩

/-- The text ends in one of the words, as a whole word, and in blanks behind it. -/
def LedBy (words : List String) (before : Text) : Prop :=
  ∃ head word blanks, before = head ++ (word ++ blanks) ∧ String.ofList word ∈ words ∧
    blanks ≠ [] ∧ (∀ x ∈ blanks, Text.isBlank x = true) ∧ Text.IsRun Text.isWord head word blanks

theorem mem_ways_firstOf_text {words : List String} :
    r ∈ (firstOf (words.map Pattern.text)).ways c caps ↔
      ∃ word rest, String.ofList word ∈ words ∧ c.rest = word ++ rest ∧
        r = (.between (word.reverse ++ c.before) rest, caps) := by
  simp only [mem_ways_firstOf, List.mem_map, Pattern.text]
  constructor
  · rintro ⟨_, ⟨w, hw, rfl⟩, hr⟩
    obtain ⟨rest, hrest, rfl⟩ := mem_ways_literal.1 hr
    exact ⟨w.toList, rest, by simpa using hw, hrest, rfl⟩
  · rintro ⟨word, rest, hw, hrest, rfl⟩
    exact ⟨_, ⟨_, hw, rfl⟩, mem_ways_literal.2 ⟨rest, by simpa using hrest, by simp⟩⟩

/-- A whole word and blanks behind it lead to the place that they reach. -/
theorem ledBy_of_ways {words : List String} (hplain : ∀ w ∈ words, IsPlain w.toList)
    (hboundary : Anchor.wordBoundary.holds c = true) {word rest : Text}
    (hword : String.ofList word ∈ words) (hrest : c.rest = word ++ rest)
    (hspace : r ∈ space.ways (.between (word.reverse ++ c.before) rest) caps) :
    LedBy words r.1.before.reverse := by
  obtain ⟨x, blanks, tail, htail, hx, hblanks, rfl⟩ := mem_ways_space.1 hspace
  obtain rfl : rest = x :: (blanks ++ tail) := htail
  have hplain' : IsPlain word := by simpa using hplain _ hword
  have hrun := isRun_of_wordBoundary hplain' hrest hboundary
    (by simpa using Text.isWord_of_isBlank hx)
  refine ⟨c.before.reverse, word, x :: blanks, by simp, hword, by simp,
    List.forall_mem_cons.2 ⟨hx, hblanks⟩, hrun.inside, hrun.before, ?_⟩
  simpa using Text.isWord_of_isBlank hx

namespace LedBy

variable {words : List String} {rest : Text}

/-- The word is a whole word of the text that goes on behind the blanks. -/
theorem exists_run (h : LedBy words pre) (htext : text = pre ++ rest) :
    ∃ head word blanks, text = head ++ (word ++ (blanks ++ rest)) ∧ String.ofList word ∈ words ∧
      blanks ≠ [] ∧ (∀ x ∈ blanks, Text.isBlank x = true) ∧ pre = head ++ (word ++ blanks) ∧
      Text.IsRun Text.isWord head word (blanks ++ rest) := by
  obtain ⟨head, word, blanks, rfl, hword, hne, hblanks, hrun⟩ := h
  refine ⟨head, word, blanks, by simp [htext], hword, hne, hblanks, rfl, hrun.inside, hrun.before, ?_⟩
  cases blanks with
  | nil => exact absurd rfl hne
  | cons x blanks => exact hrun.after

theorem blank_before (h : LedBy words pre) : ∀ x ∈ pre.getLast?, Text.isBlank x = true := by
  obtain ⟨head, word, blanks, rfl, -, hne, hblanks, -⟩ := h
  rcases List.eq_nil_or_concat blanks with rfl | ⟨init, y, rfl⟩
  · exact absurd rfl hne
  · intro x hx
    have hassoc : head ++ (word ++ init.concat y) = (head ++ (word ++ init)) ++ [y] := by simp
    rw [hassoc, List.getLast?_concat] at hx
    obtain rfl : y = x := by simpa using hx
    exact hblanks y (by simp)

end LedBy

def operandWords : List String := ["as", "is", "instanceof", "new"]

def declarationWords : List String := ["var", "const"]

theorem isPlain_operandWords : ∀ w ∈ operandWords, IsPlain w.toList := by decide +kernel

theorem isPlain_declarationWords : ∀ w ∈ declarationWords, IsPlain w.toList := by decide +kernel

theorem typeOperand_pattern : typeOperand.pattern =
    concat ([wordBoundary, firstOf (operandWords.map Pattern.text), space] ++ [group 1 dottedName]) :=
  rfl

theorem variableDeclaration_pattern : variableDeclaration.pattern =
    concat ([wordBoundary, group 1 (firstOf (declarationWords.map Pattern.text)), space] ++
      [group 2 identifier]) :=
  rfl

theorem typeOperand_takes (h : typeOperand.pattern.Takes 1 pre part post) :
    LedBy operandWords pre ∧ ∃ caps caps', dottedName.ways.First (.between pre.reverse (part ++ post))
      caps (.between (part.reverse ++ pre.reverse) post, caps') := by
  rw [typeOperand_pattern] at h
  obtain ⟨first, caps, caps', -, hlead, hfirst⟩ := Takes.first (by decide) h
  simp only [mem_ways_concat_cons, mem_ways_concat_nil, wordBoundary, mem_ways_anchor,
    mem_ways_firstOf_text] at hlead
  obtain ⟨_, ⟨hboundary, rfl⟩, _, ⟨word, rest, hword, hrest, rfl⟩, q, hspace, hq⟩ := hlead
  have hled := ledBy_of_ways isPlain_operandWords hboundary hword hrest hspace
  rw [← congrArg Prod.fst hq] at hled
  exact ⟨by simpa using hled, caps, caps', hfirst⟩

theorem variableDeclaration_takes_name (h : variableDeclaration.pattern.Takes 2 pre part post) :
    LedBy declarationWords pre ∧ ∃ caps caps', identifier.ways.First (.between pre.reverse (part ++ post))
      caps (.between (part.reverse ++ pre.reverse) post, caps') := by
  rw [variableDeclaration_pattern] at h
  obtain ⟨first, caps, caps', -, hlead, hfirst⟩ := Takes.first (by decide) h
  simp only [mem_ways_concat_cons, mem_ways_concat_nil, wordBoundary, mem_ways_anchor, mem_ways_group,
    mem_ways_firstOf_text] at hlead
  obtain ⟨_, ⟨hboundary, rfl⟩, _, ⟨d, _, ⟨word, rest, hword, hrest, heq⟩, rfl⟩, q, hspace, hq⟩ := hlead
  obtain ⟨rfl, -⟩ := Prod.ext_iff.1 heq
  have hled := ledBy_of_ways isPlain_declarationWords hboundary hword hrest hspace
  rw [← congrArg Prod.fst hq] at hled
  exact ⟨by simpa using hled, caps, caps', hfirst⟩

theorem variableDeclaration_takes_word (h : variableDeclaration.pattern.Takes 1 pre part post) :
    String.ofList part ∈ declarationWords ∧ Text.IsRun Text.isWord pre part post := by
  have hpattern : variableDeclaration.pattern = concat ([wordBoundary] ++
      group 1 (firstOf (declarationWords.map Pattern.text)) :: [space, group 2 identifier]) := rfl
  rw [hpattern] at h
  obtain ⟨first, caps, caps', r, -, hlead, hbody, htail⟩ := Takes.ways (by decide) (by decide) h
  simp only [mem_ways_concat_cons, mem_ways_concat_nil, wordBoundary, mem_ways_anchor,
    mem_ways_firstOf_text, mem_ways_space] at hlead hbody htail
  obtain ⟨_, ⟨hboundary, rfl⟩, hq⟩ := hlead
  obtain ⟨rfl, -⟩ := Prod.ext_iff.1 hq
  obtain ⟨word, rest, hword, hrest, heq⟩ := hbody
  obtain ⟨rfl, rfl⟩ := Cursor.between_append_inj.1 (Prod.ext_iff.1 heq).1
  obtain ⟨_, ⟨x, blanks, tail, htail, hx, -⟩, -⟩ := htail
  obtain rfl : post = x :: (blanks ++ tail) := htail
  have hplain : IsPlain part := by simpa using isPlain_declarationWords _ hword
  have hrun := isRun_of_wordBoundary hplain rfl hboundary (by simpa using Text.isWord_of_isBlank hx)
  exact ⟨hword, by simpa using hrun⟩

theorem forEach_takes (h : forEach.pattern.Takes 1 pre part post) :
    part = "each".toList ∧ Text.IsRun Text.isWord pre part post := by
  have hpattern : forEach.pattern = concat ([wordBoundary, Pattern.text "for", space] ++
      group 1 (Pattern.text "each") :: [wordBoundary]) := rfl
  rw [hpattern] at h
  obtain ⟨first, caps, caps', r, -, hlead, hbody, htail⟩ := Takes.ways (by decide) (by decide) h
  have hled : LedBy ["for"] pre := by
    simp only [mem_ways_concat_cons, mem_ways_concat_nil, wordBoundary, mem_ways_anchor, Pattern.text,
      mem_ways_literal] at hlead
    obtain ⟨_, ⟨hboundary, rfl⟩, _, ⟨rest, hrest, rfl⟩, q, hspace, hq⟩ := hlead
    have hfor : LedBy ["for"] q.1.before.reverse :=
      ledBy_of_ways (by decide) hboundary (by decide) hrest hspace
    rw [← congrArg Prod.fst hq] at hfor
    simpa using hfor
  simp only [mem_ways_concat_cons, mem_ways_concat_nil, wordBoundary, mem_ways_anchor, Pattern.text,
    mem_ways_literal] at hbody htail
  obtain ⟨rest, hrest, heq⟩ := hbody
  obtain ⟨rfl, rfl⟩ := Cursor.between_append_inj.1 (Prod.ext_iff.1 heq).1
  obtain ⟨_, ⟨hboundary, -⟩, -⟩ := htail
  have hplain : IsPlain "each".toList := by decide
  rw [hplain.wordBoundary_last] at hboundary
  exact ⟨rfl, hplain.2, fun x hx => Text.isWord_of_isBlank (hled.blank_before x hx),
    Anchor.onWord_eq_false_iff.1 (by simpa using hboundary)⟩

theorem restParameter_takes (h : restParameter.pattern.Takes 1 pre part post) :
    part = "...".toList := by
  have hpattern : restParameter.pattern = concat ([] ++ group 1 (Pattern.text "...") :: []) := rfl
  rw [hpattern] at h
  obtain ⟨first, caps, caps', r, -, -, hbody, -⟩ := Takes.ways (by decide) (by decide) h
  obtain ⟨rest, hrest, heq⟩ := mem_ways_literal.1 hbody
  exact (Cursor.between_append_inj.1 (Prod.ext_iff.1 heq).1).1

/-! ## Signs around a group -/

/-- The text ends in the sign and in blanks behind it. -/
def EndsWith (sign : Char) (before : Text) : Prop :=
  ∃ head blanks, before = head ++ sign :: blanks ∧ ∀ x ∈ blanks, Text.isBlank x = true

theorem EndsWith.mem {sign : Char} (h : EndsWith sign pre) : sign ∈ pre := by
  obtain ⟨head, blanks, rfl, -⟩ := h
  simp

/-- The text begins with blanks and the sign behind them. -/
def BeginsWith (sign : Char) (after : Text) : Prop :=
  ∃ blanks tail, after = blanks ++ sign :: tail ∧ ∀ x ∈ blanks, Text.isBlank x = true

theorem typeAnnotation_takes (h : typeAnnotation.pattern.Takes 1 pre part post) :
    EndsWith ':' pre ∧ ∃ caps caps', typeExpression.ways.First (.between pre.reverse (part ++ post))
      caps (.between (part.reverse ++ pre.reverse) post, caps') := by
  have hpattern : typeAnnotation.pattern =
      concat ([firstOf [textStart, char (.noneOf [':'])], Pattern.text ":", gap] ++
        [group 1 typeExpression]) := rfl
  rw [hpattern] at h
  obtain ⟨first, caps, caps', -, hlead, hfirst⟩ := Takes.first (by decide) h
  simp only [mem_ways_concat_cons, mem_ways_concat_nil, Pattern.text, mem_ways_literal,
    mem_ways_gap] at hlead
  obtain ⟨q, -, _, ⟨rest, -, rfl⟩, _, ⟨blanks, tail, -, hblanks, rfl⟩, hq⟩ := hlead
  have hpre := congrArg List.reverse (Cursor.between_inj.1 (Prod.ext_iff.1 hq).1).1
  exact ⟨⟨q.1.before.reverse, blanks, by simpa using hpre, hblanks⟩, caps, caps', hfirst⟩

theorem missingReturnType_takes (h : missingReturnType.pattern.Takes 1 pre part post) :
    part = ['\x7b'] ∧ EndsWith ')' pre := by
  have hpattern : missingReturnType.pattern =
      concat (([wordBoundary, Pattern.text "function", space,
        opt (concat [firstOf [Pattern.text "get", Pattern.text "set"], space]), identifier, gap] ++
          [parameters] ++ [gap]) ++ [group 1 (Pattern.text "\x7b")]) := rfl
  rw [hpattern] at h
  obtain ⟨first, caps, caps', -, hlead, hfirst⟩ := Takes.first (by decide) h
  obtain ⟨rest, hrest, heq⟩ := mem_ways_literal.1 (List.mem_of_head? hfirst)
  obtain ⟨rfl, rfl⟩ := Cursor.between_append_inj.1 (Prod.ext_iff.1 heq).1
  refine ⟨rfl, ?_⟩
  obtain ⟨_, hlead, hgap⟩ := mem_ways_concat_append.1 hlead
  obtain ⟨q, -, hparameters⟩ := mem_ways_concat_append.1 hlead
  simp only [parameters, mem_ways_concat_cons, mem_ways_concat_nil, Pattern.text, mem_ways_literal,
    mem_ways_star_char] at hparameters
  obtain ⟨_, ⟨inner, -, rfl⟩, _, ⟨body, tail, -, -, rfl⟩, _, ⟨tail', -, rfl⟩, rfl⟩ := hparameters
  obtain ⟨blanks, tail'', -, hblanks, hq⟩ := mem_ways_gap.1 hgap
  have hpre := congrArg List.reverse (Cursor.between_inj.1 (Prod.ext_iff.1 hq).1).1
  exact ⟨q.1.before.reverse ++ '(' :: body, blanks, by simpa using hpre, hblanks⟩

theorem EndsWith.no_word_before {sign : Char} (h : EndsWith sign pre) (hsign : Text.isWord sign = false) :
    ∀ x ∈ pre.getLast?, Text.isWord x = false := by
  obtain ⟨head, blanks, rfl, hblanks⟩ := h
  intro x hx
  have hmem : x = sign ∨ x ∈ blanks := by
    rcases List.eq_nil_or_concat blanks with rfl | ⟨init, y, rfl⟩
    · exact .inl (by simpa using hx.symm)
    · have hassoc : head ++ sign :: init.concat y = (head ++ sign :: init) ++ [y] := by simp
      rw [hassoc, List.getLast?_concat] at hx
      obtain rfl : y = x := by simpa using hx
      exact .inr (by simp)
  rcases hmem with rfl | hblank
  · exact hsign
  · exact Text.isWord_of_isBlank (hblanks x hblank)

/-! ## The word of functions -/

def functionWord : Text := "function".toList

theorem isPlain_functionWord : IsPlain functionWord := by decide +kernel

/-- The text has the word of functions as a whole word. -/
def HoldsFunction (text : Text) : Prop :=
  ∃ head tail, text = head ++ (functionWord ++ tail) ∧ Text.IsRun Text.isWord head functionWord tail

/-- The word begins at a boundary, and white space follows it. -/
theorem holdsFunction_of_space {before rest : Text}
    (hboundary : Anchor.wordBoundary.holds c = true) (hrest : c.rest = functionWord ++ rest)
    (hspace : r ∈ space.ways (.between before rest) caps) : HoldsFunction c.text := by
  obtain ⟨x, blanks, tail, hblanks, hx, -⟩ := mem_ways_space.1 hspace
  obtain rfl : rest = x :: (blanks ++ tail) := hblanks
  have hrun := isRun_of_wordBoundary isPlain_functionWord hrest hboundary
    (by simpa using Text.isWord_of_isBlank hx)
  exact ⟨c.before.reverse, _, by rw [Cursor.text, hrest], hrun⟩

theorem functionDeclaration_match {m : Match} (hm : m ∈ functionDeclaration.pattern.findAll text) :
    HoldsFunction text := by
  have hway := Match.mem_ways (matchAt_of_mem_findAll hm)
  have hpattern : functionDeclaration.pattern = concat (wordBoundary :: group 1 (literal functionWord) ::
      space :: [opt (concat [group 2 (firstOf [Pattern.text "get", Pattern.text "set"]), space]),
        group 3 identifier, gap, parameters,
        opt (concat [gap, Pattern.text ":", gap, group 4 typeExpression])]) := rfl
  rw [hpattern] at hway
  obtain ⟨_, hanchor, hway⟩ := mem_ways_concat_cons.1 hway
  obtain ⟨_, hgroup, hway⟩ := mem_ways_concat_cons.1 hway
  obtain ⟨_, hspace, -⟩ := mem_ways_concat_cons.1 hway
  obtain ⟨hboundary, rfl⟩ := mem_ways_anchor.1 hanchor
  obtain ⟨_, _, hword, rfl⟩ := mem_ways_group.1 hgroup
  obtain ⟨rest, hrest, heq⟩ := mem_ways_literal.1 hword
  obtain ⟨rfl, -⟩ := Prod.ext_iff.1 heq
  rw [← text_of_mem_findAll hm]
  exact holdsFunction_of_space hboundary hrest hspace

theorem missingReturnType_match {m : Match} (hm : m ∈ missingReturnType.pattern.findAll text) :
    HoldsFunction text := by
  have hway := Match.mem_ways (matchAt_of_mem_findAll hm)
  have hpattern : missingReturnType.pattern = concat (wordBoundary :: literal functionWord :: space ::
      [opt (concat [firstOf [Pattern.text "get", Pattern.text "set"], space]), identifier, gap,
        parameters, gap, group 1 (Pattern.text "\x7b")]) := rfl
  rw [hpattern] at hway
  obtain ⟨_, hanchor, hway⟩ := mem_ways_concat_cons.1 hway
  obtain ⟨_, hword, hway⟩ := mem_ways_concat_cons.1 hway
  obtain ⟨_, hspace, -⟩ := mem_ways_concat_cons.1 hway
  obtain ⟨hboundary, rfl⟩ := mem_ways_anchor.1 hanchor
  obtain ⟨rest, hrest, rfl⟩ := mem_ways_literal.1 hword
  rw [← text_of_mem_findAll hm]
  exact holdsFunction_of_space hboundary hrest hspace

/-- A sign, and the word of functions behind it. -/
def leadsToFunction (sign : Char) : List Pattern :=
  [gap, literal [sign], gap, literal functionWord, wordBoundary]

theorem leadsToFunction_ways {sign : Char} (hsign : Text.isWord sign = false)
    (h : r ∈ (concat (leadsToFunction sign)).ways c caps) :
    BeginsWith sign c.rest ∧ HoldsFunction c.text := by
  simp only [leadsToFunction, mem_ways_concat_cons, mem_ways_concat_nil, wordBoundary, mem_ways_anchor,
    mem_ways_literal, mem_ways_gap] at h
  obtain ⟨_, ⟨blanks, rest, hrest, hblanks, rfl⟩, _, ⟨rest', hsigned, rfl⟩, _,
    ⟨blanks', rest'', hrest', hblanks', rfl⟩, _, ⟨tail, hword, rfl⟩, _, ⟨hboundary, -⟩, -⟩ := h
  obtain rfl : rest = sign :: rest' := hsigned
  obtain rfl : rest' = blanks' ++ rest'' := hrest'
  obtain rfl : rest'' = functionWord ++ tail := hword
  refine ⟨⟨blanks, _, hrest, hblanks⟩, ?_⟩
  rw [isPlain_functionWord.wordBoundary_last] at hboundary
  have hbefore : EndsWith sign (c.before.reverse ++ (blanks ++ sign :: blanks')) :=
    ⟨c.before.reverse ++ blanks, blanks', by simp, hblanks'⟩
  refine ⟨_, tail, ?_, isPlain_functionWord.2, hbefore.no_word_before hsign,
    Anchor.onWord_eq_false_iff.1 (by simpa using hboundary)⟩
  rw [Cursor.text, hrest]
  simp

/-! ## Rules for the start of a line -/

theorem before_eq_nil (h : Anchor.textStart.holds c = true) : c.before = [] := by
  simpa [Anchor.holds] using h

theorem functionProperty_takes (h : functionProperty.pattern.Takes 1 pre part post) :
    (∀ x ∈ pre, Text.isBlank x = true) ∧ BeginsWith ':' post ∧ HoldsFunction (pre ++ (part ++ post)) := by
  have hpattern : functionProperty.pattern =
      concat ([textStart, gap] ++ group 1 identifier :: leadsToFunction ':') := rfl
  rw [hpattern] at h
  obtain ⟨first, caps, caps', r, -, hlead, -, htail⟩ := Takes.ways (by decide) (by decide) h
  simp only [mem_ways_concat_cons, mem_ways_concat_nil, textStart, mem_ways_anchor,
    mem_ways_gap] at hlead
  obtain ⟨_, ⟨hstart, rfl⟩, _, ⟨blanks, rest, -, hblanks, rfl⟩, hq⟩ := hlead
  have hpre := congrArg List.reverse (Cursor.between_inj.1 (Prod.ext_iff.1 hq).1).1
  obtain rfl : pre = blanks := by simpa [before_eq_nil hstart] using hpre
  obtain ⟨hbegins, hfunction⟩ := leadsToFunction_ways (by decide) htail
  exact ⟨hblanks, hbegins, by simpa [Cursor.text] using hfunction⟩

theorem functionAssignment_takes (h : functionAssignment.pattern.Takes 1 pre part post) :
    (∃ blanks more, pre = blanks ++ more ∧ (∀ x ∈ blanks, Text.isBlank x = true) ∧
      ∀ x ∈ more.head?, x ∈ ['v', 'l', 'c']) ∧
      BeginsWith '=' post ∧ HoldsFunction (pre ++ (part ++ post)) := by
  have hpattern : functionAssignment.pattern = concat ([textStart, gap,
      opt (concat [firstOf (["var", "let", "const"].map Pattern.text), space])] ++
        group 1 dottedName :: leadsToFunction '=') := rfl
  rw [hpattern] at h
  obtain ⟨first, caps, caps', r, -, hlead, -, htail⟩ := Takes.ways (by decide) (by decide) h
  obtain ⟨hbegins, hfunction⟩ := leadsToFunction_ways (by decide) htail
  refine ⟨?_, hbegins, by simpa [Cursor.text] using hfunction⟩
  simp only [mem_ways_concat_cons, mem_ways_concat_nil, textStart, mem_ways_anchor, mem_ways_gap,
    mem_ways_opt, mem_ways_firstOf_text] at hlead
  obtain ⟨_, ⟨hstart, rfl⟩, _, ⟨blanks, rest, -, hblanks, rfl⟩, q, hword | rfl, hq⟩ := hlead
  · obtain ⟨_, ⟨word, rest', hmem, -, rfl⟩, q', hspace, rfl⟩ := hword
    obtain ⟨x, blanks', tail, -, -, -, rfl⟩ := mem_ways_space.1 hspace
    have hpre := congrArg List.reverse (Cursor.between_inj.1 (Prod.ext_iff.1 hq).1).1
    refine ⟨blanks, word ++ x :: blanks', by simpa [before_eq_nil hstart] using hpre, hblanks, ?_⟩
    have hhead : ∀ w ∈ ["var", "let", "const"], ∀ rest, ∀ x ∈ (w.toList ++ rest).head?,
        x ∈ ['v', 'l', 'c'] := by
      simp
    simpa using hhead _ hmem (x :: blanks')
  · have hpre := congrArg List.reverse (Cursor.between_inj.1 (Prod.ext_iff.1 hq).1).1
    obtain rfl : pre = blanks := by simpa [before_eq_nil hstart] using hpre
    exact ⟨pre, [], by simp, hblanks, by simp⟩

/-- A line with an identifier behind the word of functions and blanks has a heading. -/
theorem exists_functionHeading_takes {name : Text} (blanks rest : Text)
    (hblanks : ∀ x ∈ blanks, Text.isBlank x = true) (hname : IsIdentifier name) :
    ∃ pre part post, functionWord ++ (blanks ++ (name ++ rest)) = pre ++ (part ++ post) ∧
      functionHeading.pattern.Takes 1 pre part post := by
  have hgap : ∀ c caps, (c, caps) ∈ gap.ways c caps :=
    fun c caps => mem_ways_gap.2 ⟨[], c.rest, rfl, by simp, Prod.ext c.between_sides.symm rfl⟩
  have hopt : ∀ p c caps, (c, caps) ∈ (opt p).ways c caps := fun p c caps => mem_ways_opt.2 (.inr rfl)
  have hword : ∀ caps, (.between functionWord.reverse (blanks ++ (name ++ rest)), caps) ∈
      (literal functionWord).ways (.between [] (functionWord ++ (blanks ++ (name ++ rest)))) caps :=
    fun caps => way_literal functionWord
  have hway := way_cons (mem_ways_anchor (a := .textStart).2 ⟨rfl, rfl⟩) <|
    way_cons (hgap _ []) <| way_cons (hopt (concat [Pattern.text "export", space]) _ _) <|
    way_cons (hopt (concat [Pattern.text "async", space]) _ _) <| way_cons (hword _) <|
    way_cons (way_gap hblanks) <| way_cons (hopt (Pattern.text "*") _ _) <| way_cons (hgap _ _) <|
    way_cons (way_group 1 (way_identifier hname)) way_nil
  exact exists_takes_of_way [textStart, gap, optionalWord "export", optionalWord "async",
    literal functionWord, gap, opt (Pattern.text "*"), gap] [] (by decide) (by decide) hway

section Heading

variable {name rest : Text}

theorem gap_ways_of_not_blank (h : r ∈ gap.ways c caps) (hne : name ≠ []) (hrest : c.rest = name ++ rest)
    (hname : ∀ x ∈ name, Text.isWord x = true) : r = (c, caps) := by
  obtain ⟨blanks, tail, htail, hblanks, rfl⟩ := mem_ways_gap.1 h
  cases blanks with
  | nil => exact Prod.ext (Cursor.ext_sides rfl htail.symm) rfl
  | cons x blanks =>
      cases name with
      | nil => exact absurd rfl hne
      | cons y name =>
          rw [hrest] at htail
          obtain ⟨rfl, -⟩ : y = x ∧ name ++ rest = blanks ++ tail := by simpa using htail
          have hword := hname y (by simp)
          rw [Text.isWord_of_isBlank (hblanks y (by simp))] at hword
          cases hword

theorem optionalWord_ways_of_ne {word : String} (hword : IsPlain word.toList)
    (h : r ∈ (optionalWord word).ways c caps) (hrest : c.rest = name ++ rest)
    (hrun : Text.IsRun Text.isWord [] name rest) (hne : String.ofList name ≠ word) : r = (c, caps) := by
  rw [optionalWord, mem_ways_opt] at h
  rcases h with h | rfl
  · simp only [mem_ways_concat_cons, Pattern.text, mem_ways_literal, mem_ways_space] at h
    obtain ⟨_, ⟨tail, htail, rfl⟩, _, ⟨x, blanks, tail', hblanks, hx, -⟩, -⟩ := h
    obtain rfl : tail = x :: (blanks ++ tail') := hblanks
    obtain ⟨more, rfl, hmore⟩ := hrun.exists_of_append (htail.symm.trans hrest) hword.2
    cases more with
    | nil => simp at hne
    | cons y more =>
        obtain ⟨rfl, -⟩ : x = y ∧ _ := by simpa using hmore
        have hword := hrun.inside x (by simp)
        rw [Text.isWord_of_isBlank hx] at hword
        cases hword
  · rfl

/-- On a line that begins with a word, a heading begins with it, and the word begins with the one of
functions; it need not end with it. -/
theorem functionHeading_takes (h : functionHeading.pattern.Takes 1 pre part post)
    (htext : pre ++ (part ++ post) = name ++ rest) (hrun : Text.IsRun Text.isWord [] name rest)
    (hne : name ≠ []) (hnot : String.ofList name ∉ ["export", "async"]) :
    ∃ more, pre = functionWord ++ more ∧ (∀ x ∈ more, Text.isBlank x = true ∨ x = '*') ∧
      (∃ suffix, name = functionWord ++ suffix) ∧
      ∃ caps caps', identifier.ways.First (.between pre.reverse (part ++ post)) caps
        (.between (part.reverse ++ pre.reverse) post, caps') := by
  have hpattern : functionHeading.pattern = concat ([textStart, gap, optionalWord "export",
      optionalWord "async", literal functionWord, gap, opt (Pattern.text "*"), gap] ++
        [group 1 identifier]) := rfl
  rw [hpattern] at h
  obtain ⟨first, caps, caps', hfirst, hlead, hbody⟩ := Takes.first (by decide) h
  obtain ⟨_, hanchor, hlead⟩ := mem_ways_concat_cons.1 hlead
  obtain ⟨_, hgap, hlead⟩ := mem_ways_concat_cons.1 hlead
  obtain ⟨_, hexport, hlead⟩ := mem_ways_concat_cons.1 hlead
  obtain ⟨_, hasync, hlead⟩ := mem_ways_concat_cons.1 hlead
  obtain ⟨hstart, rfl⟩ := mem_ways_anchor.1 hanchor
  have hbefore := before_eq_nil hstart
  have hrest : first.rest = name ++ rest := by
    rw [← htext, ← hfirst, Cursor.text, hbefore]
    rfl
  simp only [List.mem_cons, List.not_mem_nil, or_false, not_or] at hnot
  obtain rfl := gap_ways_of_not_blank hgap hne hrest hrun.inside
  obtain rfl := optionalWord_ways_of_ne (by decide) hexport hrest hrun hnot.1
  obtain rfl := optionalWord_ways_of_ne (by decide) hasync hrest hrun hnot.2
  simp only [mem_ways_concat_cons, mem_ways_concat_nil, mem_ways_literal, mem_ways_gap, mem_ways_opt,
    Pattern.text] at hlead
  obtain ⟨_, ⟨tail, htail, rfl⟩, _, ⟨blanks, tail', -, hblanks, rfl⟩, q, hstar, _,
    ⟨blanks', tail'', -, hblanks', rfl⟩, hq⟩ := hlead
  obtain ⟨suffix, hname, -⟩ :=
    hrun.exists_of_append (htail.symm.trans hrest) isPlain_functionWord.2
  have hpre := congrArg List.reverse (Cursor.between_inj.1 (Prod.ext_iff.1 hq).1).1
  rcases hstar with ⟨_, -, rfl⟩ | rfl
  · refine ⟨blanks ++ '*' :: blanks', by simpa [hbefore] using hpre, fun x hx => ?_, ⟨suffix, hname⟩,
      caps, caps', hbody⟩
    rcases List.mem_append.1 hx with hx | hx
    · exact .inl (hblanks x hx)
    · rcases List.mem_cons.1 hx with rfl | hx
      · exact .inr rfl
      · exact .inl (hblanks' x hx)
  · refine ⟨blanks ++ blanks', by simpa [hbefore] using hpre, fun x hx => ?_, ⟨suffix, hname⟩,
      caps, caps', hbody⟩
    rcases List.mem_append.1 hx with hx | hx
    · exact .inl (hblanks x hx)
    · exact .inl (hblanks' x hx)

/-- Such a heading begins with a longer word, of which it takes the rest. -/
theorem functionHeading_takes_suffix (h : functionHeading.pattern.Takes 1 pre part post)
    (htext : pre ++ (part ++ post) = name ++ rest) (hrun : Text.IsRun Text.isWord [] name rest)
    (hne : name ≠ []) (hnot : String.ofList name ∉ ["export", "async", "function"])
    (hrest : ∀ x ∈ rest.head?, identifierRest.contains x = false) :
    pre = functionWord ∧ name = functionWord ++ part ∧ post = rest ∧ IsIdentifier part := by
  simp only [List.mem_cons, List.not_mem_nil, or_false, not_or] at hnot
  obtain ⟨hexport, hasync, hfunction⟩ := hnot
  obtain ⟨more, rfl, hmore, ⟨suffix, rfl⟩, caps, caps', hfirst⟩ :=
    functionHeading_takes h htext hrun hne (by simp [hexport, hasync])
  have hword : ∀ x ∈ suffix, Text.isWord x = true := fun x hx => hrun.inside x (by simp [hx])
  have hnotWord : ∀ x ∈ more, (!Text.isWord x) = true := by
    intro x hx
    rcases hmore x hx with hblank | rfl
    · rw [Text.isWord_of_isBlank hblank]
      rfl
    · decide
  have hbehind : more ++ (part ++ post) = suffix ++ rest := by simpa using htext
  cases suffix with
  | nil => exact absurd rfl hfunction
  | cons y suffix =>
      have hy : Text.isWord y = true := hword y (by simp)
      obtain ⟨rfl, hpart⟩ := eq_nil_of_head hnotWord hbehind (by simp [hy])
      obtain ⟨t, tail, -, ht, heq⟩ := mem_ways_identifier.1 (List.mem_of_head? hfirst)
      obtain ⟨rfl, -⟩ := Cursor.between_append_inj.1 (Prod.ext_iff.1 heq).1
      -- the whole rest of the word is an identifier, so it is preferred to what is taken
      have hsuffix : IsIdentifier (y :: suffix) := by
        obtain ⟨z, hz, hstart⟩ := ht.starts
        obtain ⟨tail, rfl⟩ := List.head?_eq_some_iff.1 hz
        obtain ⟨rfl, -⟩ : z = y ∧ _ := by simpa using hpart
        exact ⟨⟨z, rfl, hstart⟩, fun x hx => contains_identifierRest.2 (.inl (hword x hx))⟩
      obtain ⟨rfl, rfl⟩ := part_eq_of_first hfirst (first_identifier hsuffix hrest) hpart
      exact ⟨by simp, rfl, rfl, hsuffix⟩

end Heading

end Script

end Highlighter
