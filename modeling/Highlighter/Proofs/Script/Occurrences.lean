import Highlighter.Proofs.Pattern.Coverage
import Highlighter.Proofs.Script.Contexts

/-!
The rules for words find each of them. A match takes the character in front of the word as well, but no
other match is left without it: the character is none of a word, and no word stands in front of it.
-/
namespace Highlighter

namespace Pattern

variable {p : Pattern} {text : Text}

/-- Group 1 of each match takes a word that stands so, from left to right, and no such word is left
out. -/
def TakesEach (p : Pattern) (text : Text) (stands : Text → Text → Text → Prop) : Prop :=
  ∃ ranges : List (Nat × Nat), (p.findAll text).map (·.group? 1) = ranges.map some ∧
    ranges.Pairwise (fun a b => a.2 ≤ b.1) ∧
    ∀ range, range ∈ ranges ↔ ∃ pre word post, text = pre ++ (word ++ post) ∧
      stands pre word post ∧ range = (pre.byteLength, (pre ++ word).byteLength)

theorem takesEach_of_takes {stands : Text → Text → Text → Prop}
    (hgroup : ∀ m ∈ p.findAll text, ∃ range, m.group? 1 = some range)
    (htakes : ∀ {pre word post}, p.Takes 1 pre word post ↔ stands pre word post) :
    p.TakesEach text stands := by
  refine ⟨(p.findAll text).filterMap (·.group? 1), ?_, ?_, fun range => ?_⟩
  · rw [List.map_filterMap_some_eq_filter_map_isSome, List.filter_eq_self.2]
    intro group hmem
    obtain ⟨m, hm, rfl⟩ := List.mem_map.1 hmem
    exact Option.isSome_iff_exists.2 (hgroup m hm)
  · refine List.pairwise_filterMap.2 ((p.inARow_findAll text).2.imp_of_mem ?_)
    intro m m' hm hm' hreach range hrange range' hrange'
    have hwithin := Match.group?_within (matchAt_of_mem_findAll hm) hrange
    have hwithin' := Match.group?_within (matchAt_of_mem_findAll hm') hrange'
    have hle := hreach.offset_le
    omega
  · rw [List.mem_filterMap]
    constructor
    · rintro ⟨m, hm, hrange⟩
      obtain ⟨pre, word, post, htext, heq, hword⟩ := exists_takes hm hrange
      exact ⟨pre, word, post, htext, htakes.1 hword, heq⟩
    · rintro ⟨pre, word, post, rfl, hstands, rfl⟩
      exact htakes.2 hstands

end Pattern

namespace Script

open Pattern

variable {lead : Pattern} {front : Option Char → Prop} {words : List String}
  {pre word post text : Text} {c : Cursor} {caps : Captures} {r r' : Cursor × Captures} {m : Match}

/-- What leads to a word is one character in front of it, or nothing at the start of the text. It is known
which may stand there, and no word character may. -/
structure LeadsBy (lead : Pattern) (front : Option Char → Prop) : Prop where
  mem_ways : ∀ {c caps r}, r ∈ lead.ways c caps ↔
    (c.before = [] ∧ front none ∧ r = (c, caps)) ∨
      ∃ x rest, c.rest = x :: rest ∧ front (some x) ∧ r = (.between (x :: c.before) rest, caps)
  noWord : ∀ x, front (some x) → Text.isWord x = false
  noGroup : lead.hasGroup = false

/-- A listed word stands in the text with the right character in front of it, and it ends there. -/
structure Stands (words : List String) (front : Option Char → Prop) (pre word post : Text) : Prop where
  listed : String.ofList word ∈ words
  before : front pre.getLast?
  after : ∀ x ∈ post.head?, Text.isWord x = false

/-- Neither a dot nor a word character nor a dollar sign is in front. -/
def NoMember (before : Option Char) : Prop :=
  ∀ x ∈ before, x ≠ '.' ∧ Text.isWord x = false ∧ x ≠ '$'

theorem leadsBy_noMember : LeadsBy noMember NoMember where
  mem_ways := by
    intro c caps r
    simp only [noMember, mem_ways_firstOf, List.mem_cons, List.not_mem_nil, or_false,
      exists_eq_or_imp, exists_eq_left, textStart, mem_ways_anchor, mem_ways_char]
    refine or_congr ?_ ?_
    · simp [Anchor.holds, NoMember]
    · simp [NoMember, CharClass.contains]
  noWord x hx := (hx x rfl).2.1
  noGroup := rfl

theorem leadsBy_dot : LeadsBy (Pattern.text ".") (· = some '.') where
  mem_ways := by
    intro c caps r
    rw [Pattern.text, mem_ways_literal]
    simp
  noWord x hx := by
    obtain rfl := Option.some.inj hx
    decide
  noGroup := rfl

section

variable (hlead : LeadsBy lead front) (hplain : ∀ w ∈ words, IsPlain w.toList)
include hlead

theorem LeadsBy.of_way {d : Cursor} {caps' : Captures} (h : (d, caps') ∈ lead.ways c caps) :
    caps' = caps ∧ front d.before.head? ∧
      (c.before = [] ∧ c = d ∨ ∃ x, front (some x) ∧ c.Passes [x] d) := by
  rcases hlead.mem_ways.1 h with ⟨hstart, hfront, heq⟩ | ⟨x, rest, hrest, hfront, heq⟩
  · obtain ⟨rfl, rfl⟩ : d = c ∧ caps' = caps := by simpa using heq
    exact ⟨rfl, by simpa [hstart] using hfront, .inl ⟨hstart, rfl⟩⟩
  · obtain ⟨rfl, rfl⟩ : d = _ ∧ caps' = caps := by simpa using heq
    exact ⟨rfl, by simpa using hfront, .inr ⟨x, hfront, by simpa using hrest, by simp⟩⟩

/-! ## The ways through a rule for words -/

include hplain

/-- A way goes over what leads to the word, and then over the word. -/
theorem exists_word_of_way (hr : r ∈ (concat [lead, wholeWord words]).ways c []) :
    ∃ d word, (c.before = [] ∧ c = d ∨ ∃ x, front (some x) ∧ c.Passes [x] d) ∧ d.Passes word r.1 ∧
      IsPlain word ∧ (∀ x ∈ r.1.rest.head?, Text.isWord x = false) ∧ r.2 = [⟨1, d, r.1⟩] := by
  obtain ⟨⟨d, caps⟩, hway, hr⟩ := mem_ways_concat_cons.1 hr
  obtain ⟨rfl, -, hd⟩ := hlead.of_way hway
  obtain ⟨w, hw, post, hrest, -, hafter, rfl⟩ := (mem_ways_wholeWord hplain).1 hr
  refine ⟨d, w.toList, hd, ⟨hrest, rfl⟩, hplain w hw, Anchor.onWord_eq_false_iff.1 hafter, rfl⟩

theorem ahead_lt_of_way (hr : r ∈ (concat [lead, wholeWord words]).ways c []) :
    r.1.ahead < c.ahead := by
  obtain ⟨d, word, hd, hpass, hword, -⟩ := exists_word_of_way hlead hplain hr
  have hlength := List.length_pos_of_ne_nil hword.1
  have hover := hpass.ahead_eq
  rcases hd with ⟨-, rfl⟩ | ⟨x, -, hx⟩
  · omega
  · have hfirst := hx.ahead_eq
    omega

/-- From one place there is one way. -/
theorem way_unique (hr : r ∈ (concat [lead, wholeWord words]).ways c [])
    (hr' : r' ∈ (concat [lead, wholeWord words]).ways c []) : r = r' := by
  obtain ⟨d, word, hd, ⟨hrest, hbefore⟩, hword, hafter, hcaps⟩ := exists_word_of_way hlead hplain hr
  obtain ⟨d', word', hd', ⟨hrest', hbefore'⟩, hword', hafter', hcaps'⟩ :=
    exists_word_of_way hlead hplain hr'
  -- the character that leads to a word does not begin one
  have hmixed : ∀ {x e word post}, front (some x) → c.Passes [x] e → IsPlain word →
      c.rest ≠ word ++ post := by
    intro x e word post hx hpass hword hword'
    have hhead := @IsPlain.isWord_head word post hword x (by simp [← hword', hpass.1])
    rw [hlead.noWord x hx] at hhead
    cases hhead
  have hdd : d = d' := by
    rcases hd with ⟨-, rfl⟩ | ⟨x, hx, hpass⟩
    · rcases hd' with ⟨-, rfl⟩ | ⟨x', hx', hpass'⟩
      · rfl
      · exact absurd hrest (hmixed hx' hpass' hword)
    · rcases hd' with ⟨-, rfl⟩ | ⟨x', hx', hpass'⟩
      · exact absurd hrest' (hmixed hx hpass hword')
      · obtain ⟨rfl, htail⟩ : x = x' ∧ d.rest = d'.rest := by simpa [hpass.1] using hpass'.1
        exact Cursor.ext_sides (hpass.2.trans hpass'.2.symm) htail
  subst hdd
  obtain ⟨rfl, hsame⟩ := eq_of_heads hword.2 hword'.2 hafter hafter' (hrest.symm.trans hrest')
  have hlast : r.1 = r'.1 := Cursor.ext_sides (hbefore.trans hbefore'.symm) hsame
  exact Prod.ext hlast (by rw [hcaps, hcaps', hlast])

/-- A match of the rule does not begin inside another one, whose word would hold the character that leads
to this one. -/
theorem not_crosses (hr : r ∈ (concat [lead, wholeWord words]).ways c [])
    (hm : (m.last, m.captures) ∈ (concat [lead, wholeWord words]).ways m.first []) :
    ¬ m.Crosses c := by
  rintro ⟨a, b, hane, hbne, ⟨haRest, haBefore⟩, ⟨hbRest, -⟩⟩
  obtain ⟨d, word, hd, -⟩ := exists_word_of_way hlead hplain hr
  obtain ⟨e, word', he, ⟨hrest, -⟩, hword', -⟩ := exists_word_of_way hlead hplain hm
  obtain ⟨x, hx, hpass⟩ : ∃ x, front (some x) ∧ c.Passes [x] d := by
    refine hd.resolve_left fun hstart => hane ?_
    exact (by simpa [haBefore] using hstart.1 : a = [] ∧ m.first.before = []).1
  obtain ⟨b', rfl⟩ : ∃ b', b = x :: b' := by
    cases b with
    | nil => exact absurd rfl hbne
    | cons y b' =>
        obtain ⟨rfl, -⟩ : y = x ∧ _ := by simpa [hpass.1] using hbRest.symm
        exact ⟨b', rfl⟩
  have hover : m.first.rest = (a ++ x :: b') ++ m.last.rest := by
    rw [haRest, hbRest, List.append_assoc]
  have hmem : x ∈ word' := by
    rcases he with ⟨-, rfl⟩ | ⟨y, -, hy⟩
    · obtain rfl : word' = a ++ x :: b' := List.append_cancel_right (hrest.symm.trans hover)
      simp
    · cases a with
      | nil => exact absurd rfl hane
      | cons z a' =>
          rw [hy.1, hrest] at hover
          obtain ⟨-, heq⟩ : y = z ∧ word' ++ m.last.rest = (a' ++ x :: b') ++ m.last.rest := by
            simpa using hover
          obtain rfl := List.append_cancel_right heq
          simp
  have hnot := hlead.noWord x hx
  rw [hword'.2 x hmem] at hnot
  cases hnot

/-! ## Words of a text -/

/-- Where a word stands, there is a way over it. -/
theorem exists_way_of_stands (hs : Stands words front pre word post) :
    ∃ c, (.between (word.reverse ++ pre.reverse) post,
      [⟨1, .between pre.reverse (word ++ post), .between (word.reverse ++ pre.reverse) post⟩]) ∈
        (concat [lead, wholeWord words]).ways c [] := by
  obtain ⟨c, hc⟩ : ∃ c, (.between pre.reverse (word ++ post), []) ∈ lead.ways c [] := by
    have hbefore := hs.before
    rcases List.eq_nil_or_concat' pre with rfl | ⟨init, x, rfl⟩
    · exact ⟨_, hlead.mem_ways.2 (.inl ⟨rfl, hbefore, rfl⟩)⟩
    · rw [List.getLast?_concat] at hbefore
      exact ⟨.between init.reverse (x :: (word ++ post)),
        hlead.mem_ways.2 (.inr ⟨x, word ++ post, rfl, hbefore, by simp⟩)⟩
  refine ⟨c, way_cons hc ((mem_ways_wholeWord hplain).2
    ⟨String.ofList word, hs.listed, post, by simp, ?_, ?_, by simp⟩)⟩
  · refine Anchor.onWord_eq_false_iff.2 fun x hx => hlead.noWord x ?_
    rw [Cursor.between_before, List.head?_reverse] at hx
    exact Option.mem_def.1 hx ▸ hs.before
  · exact Anchor.onWord_eq_false_iff.2 hs.after

/-- The rule takes a word just where one stands. -/
theorem takes_iff_stands :
    (concat [lead, wholeWord words]).Takes 1 pre word post ↔ Stands words front pre word post := by
  constructor
  · intro h
    obtain ⟨hlisted, hrun, first, hway⟩ :=
      takes_wholeWord [lead] words (by simpa using hlead.noGroup) hplain h
    obtain ⟨-, hfront, -⟩ := hlead.of_way hway
    exact ⟨hlisted, by simpa using hfront, hrun.after⟩
  · intro h
    obtain ⟨c, hway⟩ := exists_way_of_stands hlead hplain h
    obtain ⟨m, hm⟩ := exists_matchAt hway
    obtain rfl := first_of_matchAt hm
    obtain ⟨hlast, hcaptures⟩ := Prod.mk.inj (way_unique hlead hplain (Match.mem_ways hm) hway)
    have htext : m.first.text = pre ++ (word ++ post) := by
      rw [← (Match.first_reaches_last hm).text_eq, hlast]
      simp [Cursor.text]
    have hmoves := ahead_lt_of_way hlead hplain (Match.mem_ways hm)
    have hmem : m ∈ (concat [lead, wholeWord words]).findAll m.first.text := by
      refine (mem_findAll_or_crosses hm hmoves).resolve_right ?_
      rintro ⟨m', hm', hcross⟩
      exact not_crosses hlead hplain (Match.mem_ways hm)
        (Match.mem_ways (matchAt_of_mem_findAll hm')) hcross
    refine ⟨m, htext ▸ hmem, ?_⟩
    simp [Match.group?, hcaptures, Cursor.offset, Nat.add_comm]

theorem takesEach_stands (text : Text) :
    (concat [lead, wholeWord words]).TakesEach text (Stands words front) := by
  refine takesEach_of_takes (fun m hm => ?_) (takes_iff_stands hlead hplain)
  obtain ⟨d, _, -, -, -, -, hcaptures⟩ :=
    exists_word_of_way hlead hplain (Match.mem_ways (matchAt_of_mem_findAll hm))
  exact ⟨(d.offset, m.last.offset), by simp [Match.group?, show m.captures = _ from hcaptures]⟩

end

/-! ## The rules for ActionScript -/

/-- A keyword that is no member and a method behind a dot are taken wherever they stand, and nothing
else is. -/
theorem words_found : ∃ keyword method : Rule,
    catalog.get? "as_keyword" = some keyword ∧ catalog.get? "builtin_method" = some method ∧
    ∀ text, keyword.pattern.TakesEach text (Stands addedKeywords NoMember) ∧
      method.pattern.TakesEach text (Stands builtinMethods (· = some '.')) := by
  have hkeywords : ∀ w ∈ addedKeywords, IsPlain w.toList :=
    isPlain_of_wordRules wordRules[3] (List.getElem_mem _)
  have hmethods : ∀ w ∈ builtinMethods, IsPlain w.toList :=
    isPlain_of_wordRules wordRules[4] (List.getElem_mem _)
  refine ⟨catalog.rules[0], catalog.rules[7], rfl, rfl, fun text => ⟨?_, ?_⟩⟩
  · exact takesEach_stands leadsBy_noMember hkeywords text
  · exact takesEach_stands leadsBy_dot hmethods text

-- the blank behind a word leads to the next one, and a member is passed over
example : (catalog.rules[0].pattern.findAll "as is as.get".toList).map (·.group? 1) =
    [some (0, 2), some (3, 5), some (6, 8)] := by
  decide +kernel

end Script

end Highlighter
