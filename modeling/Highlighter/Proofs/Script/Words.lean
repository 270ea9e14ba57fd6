import Highlighter.Proofs.Pattern.Word
import Highlighter.Proofs.Rule.Frame
import Highlighter.Proofs.Text.Run
import Highlighter.Script.ActionScript

/-!
The rules that mark the words of a list. They go by word characters, but an identifier may hold dollar
signs as well: what they mark is a whole identifier where no dollar sign is next to it.
-/
namespace Highlighter.Script

open Pattern

/-- What a rule marks: one of several words, where its pattern finds what leads to it. -/
structure WordRule where
  name : String
  lead : List Pattern := []
  words : List String

/-- The start of the text, or a character that is no dot and goes on no identifier. -/
def noMember : Pattern :=
  firstOf [textStart, char (.compl (.union (.one '.') (.union .word (.one '$'))))]

def wordRules : List WordRule :=
  [{ name := "keyword", words := keywords },
    { name := "basic_type", words := basicTypes },
    { name := "constant", words := constants },
    { name := "as_keyword", lead := [noMember], words := addedKeywords },
    { name := "builtin_method", lead := [Pattern.text "."], words := builtinMethods }]

/-- The rule has the pattern, and it marks what group 1 takes. -/
def WordRule.Describes (w : WordRule) (rule : Rule) : Prop :=
  rule.pattern = concat (w.lead ++ [wholeWord w.words]) ∧ rule.highlights.map Highlight.group = [1]

theorem exists_described : ∀ w ∈ wordRules, ∃ rule ∈ (reserved ++ catalog).rules,
    rule.name = w.name ∧ w.Describes rule := by
  simp only [wordRules, List.forall_mem_cons, List.not_mem_nil, false_implies, implies_true, and_true]
  refine ⟨?_, ?_, ?_, ?_, ?_⟩
  · exact ⟨_, .head _, rfl, rfl, rfl⟩
  · exact ⟨_, .tail _ (.head _), rfl, rfl, rfl⟩
  · exact ⟨_, .tail _ (.tail _ (.head _)), rfl, rfl, rfl⟩
  · exact ⟨catalog.rules[0], List.mem_append_right _ (List.getElem_mem _), rfl, rfl, rfl⟩
  · exact ⟨catalog.rules[7], List.mem_append_right _ (List.getElem_mem _), rfl, rfl, rfl⟩

theorem distinct_reserved_catalog : (reserved ++ catalog).Distinct := by decide +kernel

theorem isPlain_of_wordRules : ∀ w ∈ wordRules, ∀ word ∈ w.words, IsPlain word.toList := by
  decide +kernel

theorem hasGroup_of_wordRules : ∀ w ∈ wordRules, ∀ p ∈ w.lead, p.hasGroup = false := by decide

theorem lead_of_asKeyword : ∀ w ∈ wordRules, w.name = "as_keyword" → w.lead = [noMember] := by decide

theorem lead_of_builtinMethod :
    ∀ w ∈ wordRules, w.name = "builtin_method" → w.lead = [Pattern.text "."] := by
  decide

section

variable {rule : Rule} {w : WordRule} {text : Text} {c d : Cursor} {caps caps' : Captures}

theorem describes_of_name (hw : w ∈ wordRules) (hrule : rule ∈ (reserved ++ catalog).rules)
    (hname : rule.name = w.name) : w.Describes rule := by
  obtain ⟨rule', hrule', hname', hdescribes⟩ := exists_described w hw
  obtain rfl := distinct_reserved_catalog.eq_of_name hrule hrule' (hname.trans hname'.symm)
  exact hdescribes

/-! ## What leads to a word -/

theorem before_of_noMember (h : (d, caps') ∈ (concat [noMember]).ways c caps) :
    ∀ x ∈ d.before.head?, x ≠ '.' ∧ x ≠ '$' := by
  obtain ⟨q, hq, rfl⟩ : ∃ q ∈ noMember.ways c caps, (d, caps') = q := by
    simpa [mem_ways_concat_cons, mem_ways_concat_nil] using h
  obtain ⟨p, hp, hway⟩ := mem_ways_firstOf.1 hq
  simp only [List.mem_cons, List.not_mem_nil, or_false] at hp
  rcases hp with rfl | rfl
  · obtain ⟨hstart, heq⟩ := mem_ways_anchor.1 hway
    obtain ⟨rfl, rfl⟩ : d = c ∧ caps' = caps := by simpa using heq
    intro x hx
    simp [Anchor.holds, Option.mem_def.1 hx] at hstart
  · obtain ⟨x, rest, hrest, hx, heq⟩ := mem_ways_char.1 hway
    obtain ⟨rfl, rfl⟩ : d = _ ∧ caps' = _ := by simpa using heq
    intro y hy
    obtain rfl : x = y := by simpa using hy
    obtain ⟨hdot, -, hdollar⟩ : x ≠ '.' ∧ Text.isWord x = false ∧ x ≠ '$' := by
      simpa [CharClass.contains] using hx
    exact ⟨hdot, hdollar⟩

theorem before_of_dot (h : (d, caps') ∈ (concat [Pattern.text "."]).ways c caps) :
    d.before.head? = some '.' := by
  obtain ⟨q, hq, rfl⟩ : ∃ q ∈ (Pattern.text ".").ways c caps, (d, caps') = q := by
    simpa [mem_ways_concat_cons, mem_ways_concat_nil] using h
  obtain ⟨rest, hrest, heq⟩ := mem_ways_literal.1 hq
  obtain ⟨rfl, rfl⟩ : d = _ ∧ caps' = _ := by simpa using heq
  rfl

end

/-! ## Words and identifiers -/

section

variable {pre word post : Text}

theorem contains_identifierRest {c : Char} :
    identifierRest.contains c = true ↔ Text.isWord c = true ∨ c = '$' := by
  simp [identifierRest, CharClass.contains]

theorem isRun_isWord (hplain : IsPlain word) (hpre : Anchor.onWord pre.getLast? = false)
    (hpost : Anchor.onWord post.head? = false) : Text.IsRun Text.isWord pre word post where
  inside := hplain.2
  before := Anchor.onWord_eq_false_iff.1 hpre
  after := Anchor.onWord_eq_false_iff.1 hpost

/-- A run of word characters is a whole identifier if no dollar sign is next to it. -/
theorem isRun_identifierRest_iff (h : Text.IsRun Text.isWord pre word post) :
    Text.IsRun identifierRest.contains pre word post ↔
      pre.getLast? ≠ some '$' ∧ post.head? ≠ some '$' := by
  have hdollar : identifierRest.contains '$' = true := contains_identifierRest.2 (.inr rfl)
  constructor
  · intro hrun
    refine ⟨fun hpre => ?_, fun hpost => ?_⟩
    · rw [hrun.before '$' hpre] at hdollar
      cases hdollar
    · rw [hrun.after '$' hpost] at hdollar
      cases hdollar
  · rintro ⟨hpre, hpost⟩
    have hother : ∀ c, Text.isWord c = false → c ≠ '$' → identifierRest.contains c = false := by
      intro c hc hne
      simp [identifierRest, CharClass.contains, hc, hne]
    refine ⟨fun c hc => contains_identifierRest.2 (.inl (h.inside c hc)), fun c hc => ?_, fun c hc => ?_⟩
    · exact hother c (h.before c hc) fun heq => hpre (heq ▸ hc)
    · exact hother c (h.after c hc) fun heq => hpost (heq ▸ hc)

/-- An identifier without dollar signs is a run of word characters. -/
theorem isRun_isWord_of_identifier (h : Text.IsRun identifierRest.contains pre word post)
    (hdollar : '$' ∉ word) : Text.IsRun Text.isWord pre word post where
  inside c hc := by
    rcases contains_identifierRest.1 (h.inside c hc) with hword | rfl
    · exact hword
    · exact absurd hc hdollar
  before c hc := by
    have hnot := h.before c hc
    simp only [identifierRest, CharClass.contains, Bool.or_eq_false_iff] at hnot
    exact hnot.1
  after c hc := by
    have hnot := h.after c hc
    simp only [identifierRest, CharClass.contains, Bool.or_eq_false_iff] at hnot
    exact hnot.1

end

section

variable {rule : Rule} {w : WordRule} {text pre ident post : Text}

theorem exists_word_of_match (hw : w ∈ wordRules) (hd : w.Describes rule) {m : Match}
    (hm : m ∈ rule.pattern.findAll text) :
    ∃ pre word post, text = pre ++ (word ++ post) ∧
      m.group? 1 = some (pre.byteLength, (pre ++ word).byteLength) ∧ String.ofList word ∈ w.words ∧
      Text.IsRun Text.isWord pre word post ∧
      (w.name = "as_keyword" → pre.getLast? ≠ some '$' ∧ pre.getLast? ≠ some '.') ∧
      (w.name = "builtin_method" → pre.getLast? = some '.') := by
  rw [hd.1] at hm
  obtain ⟨pre, word, post, htext, hword, hgroup, hpre, hpost, hway⟩ :=
    exists_word_of_mem_findAll (hasGroup_of_wordRules w hw) (isPlain_of_wordRules w hw) hm
  have hplain : IsPlain word := by
    simpa using isPlain_of_wordRules w hw _ hword
  refine ⟨pre, word, post, htext, hgroup, hword, isRun_isWord hplain hpre hpost, fun hname => ?_,
    fun hname => ?_⟩
  · rw [lead_of_asKeyword w hw hname] at hway
    have hbefore : ∀ x ∈ pre.getLast?, x ≠ '.' ∧ x ≠ '$' := by
      simpa using before_of_noMember hway
    exact ⟨fun h => (hbefore _ h).2 rfl, fun h => (hbefore _ h).1 rfl⟩
  · rw [lead_of_builtinMethod w hw hname] at hway
    simpa using before_of_dot hway

theorem mem_words_of_covers (hw : w ∈ wordRules) (hd : w.Describes rule)
    (htext : text = pre ++ (ident ++ post)) (hrun : Text.IsRun identifierRest.contains pre ident post)
    (hdollar : '$' ∉ ident) {pos : Nat}
    (hpos : pre.byteLength ≤ pos ∧ pos < (pre ++ ident).byteLength) {a : Assignment}
    (ha : a ∈ rule.assignments text) (hcovers : a.Covers pos) : String.ofList ident ∈ w.words := by
  obtain ⟨m, hm, hin⟩ := List.mem_flatMap.1 ha
  obtain ⟨h, hh, hrange⟩ := List.mem_filterMap.1 hin
  obtain ⟨range, hgroup, rfl⟩ := Option.map_eq_some_iff.1 hrange
  have hone : h.group = 1 := by
    simpa [hd.2] using List.mem_map_of_mem (f := Highlight.group) hh
  obtain ⟨pre', word, post', htext', hgroup', hword, hrun', -⟩ := exists_word_of_match hw hd hm
  obtain rfl : range = (pre'.byteLength, (pre' ++ word).byteLength) := by
    simpa [hone, hgroup'] using hgroup.symm
  obtain ⟨-, rfl⟩ := (isRun_isWord_of_identifier hrun hdollar).unique hrun' (htext ▸ htext') hpos hcovers
  exact hword

end

/-- What a rule of this kind marks is one of its words, and no word character is next to it; it is a
whole identifier if no dollar sign is, either, and in front two of the rules see to that. An identifier
without dollar signs that is none of the words is left as it is. -/
theorem word_rules_mark_words (w : WordRule) (rule : Rule) (text : Text) (hw : w ∈ wordRules)
    (hrule : rule ∈ (reserved ++ catalog).rules) (hname : rule.name = w.name) :
    (∀ m ∈ rule.pattern.findAll text, ∃ pre word post, text = pre ++ (word ++ post) ∧
      m.group? 1 = some (pre.byteLength, (pre ++ word).byteLength) ∧ String.ofList word ∈ w.words ∧
      Text.IsRun Text.isWord pre word post ∧
      (w.name = "as_keyword" → pre.getLast? ≠ some '$' ∧ pre.getLast? ≠ some '.') ∧
      (w.name = "builtin_method" → pre.getLast? = some '.') ∧
      (Text.IsRun identifierRest.contains pre word post ↔
        pre.getLast? ≠ some '$' ∧ post.head? ≠ some '$')) ∧
    (∀ pre ident post, text = pre ++ (ident ++ post) →
      Text.IsRun identifierRest.contains pre ident post → '$' ∉ ident → String.ofList ident ∉ w.words →
      ∀ pos, pre.byteLength ≤ pos → pos < (pre ++ ident).byteLength → ∀ markup : Markup,
        (rule.apply text markup).1.categoryAt? pos = markup.categoryAt? pos) := by
  have hd := describes_of_name hw hrule hname
  constructor
  · intro m hm
    obtain ⟨pre, word, post, htext, hgroup, hword, hrun, hmember, hmethod⟩ :=
      exists_word_of_match hw hd hm
    exact ⟨pre, word, post, htext, hgroup, hword, hrun, hmember, hmethod, isRun_identifierRest_iff hrun⟩
  · intro pre ident post htext hrun hdollar hnot pos hlo hhi markup
    refine Markup.categoryAt?_writeAll_of_not_covers fun a ha hcovers => hnot ?_
    exact mem_words_of_covers hw hd htext hrun hdollar ⟨hlo, hhi⟩ ha hcovers

/-- A method's name behind a dot is marked, and a longer name that begins with one is not, whatever
is known about the line. -/
theorem word_rules_mark_words_method :
    catalog.rules[7].name = "builtin_method" ∧
    (∀ m ∈ catalog.rules[7].pattern.findAll "a.pushAll(b.pop)".toList, ∃ pre word post : Text,
      "a.pushAll(b.pop)".toList = pre ++ (word ++ post) ∧
        m.group? 1 = some (pre.byteLength, (pre ++ word).byteLength) ∧
        String.ofList word ∈ builtinMethods ∧ pre.getLast? = some '.') ∧
    (catalog.rules[7].pattern.findAll "a.pushAll(b.pop)".toList).map (·.group? 1) =
      [some (12, 15)] ∧
    ∀ markup : Markup, (catalog.rules[7].apply "a.pushAll(b.pop)".toList markup).1.categoryAt? 2 =
      markup.categoryAt? 2 := by
  obtain ⟨hmarked, hleft⟩ := word_rules_mark_words wordRules[4] catalog.rules[7]
    "a.pushAll(b.pop)".toList (List.getElem_mem _) (List.mem_append_right _ (List.getElem_mem _)) rfl
  refine ⟨rfl, fun m hm => ?_, by decide +kernel, fun markup => ?_⟩
  · obtain ⟨pre, word, post, htext, hgroup, hword, -, -, hmethod, -⟩ := hmarked m hm
    exact ⟨pre, word, post, htext, hgroup, hword, hmethod rfl⟩
  · exact hleft "a.".toList "pushAll".toList "(b.pop)".toList (by decide +kernel) (by decide +kernel)
      (by decide +kernel) (by decide +kernel) 2 (by decide +kernel) (by decide +kernel) markup

/-- A part of an identifier is marked where a dollar sign is next to it: behind a method's name or a
keyword, or in front of a constant. -/
theorem part_of_identifier_marked :
    (catalog.rules[7].pattern.findAll "arr.push$x()".toList).map (·.group? 1) = [some (4, 8)] ∧
    ¬ Text.IsRun identifierRest.contains "arr.".toList "push".toList "$x()".toList ∧
    actionScript.shown "arr.push$x()".toList .normal 4 = some .builtin ∧
    (ecmaScript .three).shown "if$x".toList .normal 0 = some .keyword ∧
    (ecmaScript .three).shown "$this".toList .normal 1 = some .constant := by
  decide +kernel

end Highlighter.Script
