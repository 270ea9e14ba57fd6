import Highlighter.Proofs.Pattern.Pieces

/-!
The ways through literals, choices, groups and conditions, one by one, and through a pattern that
takes one of several words: they are the words that stand at a place and end where a word may end.
-/
namespace Highlighter

theorem Anchor.onWord_eq_false_iff {c : Option Char} :
    onWord c = false ↔ ∀ x ∈ c, Text.isWord x = false := by
  cases c with
  | none => simp [onWord]
  | some x => simp [onWord]

namespace Pattern

variable {c : Cursor} {caps : Captures} {r : Cursor × Captures}

theorem mem_ways_char {cls : CharClass} :
    r ∈ (char cls).ways c caps ↔
      ∃ x rest, c.rest = x :: rest ∧ cls.contains x = true ∧
        r = (.between (x :: c.before) rest, caps) := by
  rw [← c.between_sides]
  cases hrest : c.rest with
  | nil => simp [ways]
  | cons x rest =>
      rw [ways_char_cons]
      constructor
      · intro hr
        split at hr
        · rename_i hx
          exact ⟨x, rest, rfl, hx, List.mem_singleton.1 hr⟩
        · cases hr
      · rintro ⟨x', rest', heq, hx, rfl⟩
        obtain ⟨rfl, rfl⟩ : x = x' ∧ rest = rest' := by simpa using heq
        simp [hx]

theorem mem_ways_anchor {a : Anchor} :
    r ∈ (anchor a).ways c caps ↔ a.holds c = true ∧ r = (c, caps) := by
  by_cases ha : a.holds c <;> simp [ways, ha]

theorem mem_ways_group {index : Nat} {body : Pattern} :
    r ∈ (group index body).ways c caps ↔
      ∃ d caps', (d, caps') ∈ body.ways c caps ∧ r = (d, ⟨index, c, d⟩ :: caps') := by
  simp only [ways, List.mem_map, Prod.exists]
  constructor
  · rintro ⟨d, caps', hd, rfl⟩
    exact ⟨d, caps', hd, rfl⟩
  · rintro ⟨d, caps', hd, rfl⟩
    exact ⟨d, caps', hd, rfl⟩

theorem mem_ways_concat_nil : r ∈ (concat []).ways c caps ↔ r = (c, caps) := List.mem_singleton

theorem mem_ways_concat_cons {p : Pattern} {ps : List Pattern} :
    r ∈ (concat (p :: ps)).ways c caps ↔
      ∃ q ∈ p.ways c caps, r ∈ (concat ps).ways q.1 q.2 := by
  rw [ways_concat_cons, Ways.andThen, List.mem_flatMap]

theorem mem_ways_concat_append {ps : List Pattern} {p : Pattern} :
    r ∈ (concat (ps ++ [p])).ways c caps ↔
      ∃ q ∈ (concat ps).ways c caps, r ∈ p.ways q.1 q.2 := by
  induction ps generalizing c caps with
  | nil =>
      simp only [List.nil_append, mem_ways_concat_nil, exists_eq_left]
      rfl
  | cons p' ps ih =>
      rw [List.cons_append, mem_ways_concat_cons]
      constructor
      · rintro ⟨q, hq, hr⟩
        obtain ⟨q', hq', hr⟩ := ih.1 hr
        exact ⟨q', mem_ways_concat_cons.2 ⟨q, hq, hq'⟩, hr⟩
      · rintro ⟨q', hq', hr⟩
        obtain ⟨q, hq, hq'⟩ := mem_ways_concat_cons.1 hq'
        exact ⟨q, hq, ih.2 ⟨q', hq', hr⟩⟩

theorem hasGroup_concat {ps : List Pattern} (h : ∀ p ∈ ps, p.hasGroup = false) :
    (concat ps).hasGroup = false := by
  induction ps with
  | nil => rfl
  | cons p ps ih =>
      have hp : p.hasGroup = false := h p (by simp)
      have hps : (concat ps).hasGroup = false := ih fun q hq => h q (by simp [hq])
      cases ps with
      | nil => exact hp
      | cons q ps => simp [concat, hasGroup, hp, hps]

theorem mem_ways_firstOf {ps : List Pattern} :
    r ∈ (firstOf ps).ways c caps ↔ ∃ p ∈ ps, r ∈ p.ways c caps := by
  rw [← c.between_sides]
  induction ps with
  | nil => simp [ways_firstOf_nil]
  | cons p ps ih => simp [ways_firstOf_cons, ih]

theorem mem_ways_literal {cs : Text} :
    r ∈ (literal cs).ways c caps ↔
      ∃ rest, c.rest = cs ++ rest ∧ r = (.between (cs.reverse ++ c.before) rest, caps) := by
  rw [← c.between_sides]
  by_cases h : cs <+: c.rest
  · obtain ⟨rest, hrest⟩ := h
    rw [← hrest, ways_literal_append]
    simp
  · rw [ways_literal_eq_nil h]
    constructor
    · intro hr
      cases hr
    · rintro ⟨rest, hrest, -⟩
      exact absurd ⟨rest, hrest.symm⟩ h

/-- A word that no word boundary cuts: it is not empty and has word characters only. -/
def IsPlain (word : Text) : Prop := word ≠ [] ∧ ∀ c ∈ word, Text.isWord c = true

instance (word : Text) : Decidable (IsPlain word) :=
  decidable_of_iff (word ≠ [] ∧ word.all Text.isWord) (by simp [IsPlain])

namespace IsPlain

variable {word before rest : Text}

theorem isWord_head (h : IsPlain word) : ∀ x ∈ (word ++ rest).head?, Text.isWord x = true := by
  obtain ⟨hne, hall⟩ := h
  cases word with
  | nil => exact absurd rfl hne
  | cons y word => simpa using hall y (by simp)

theorem wordBoundary_first (h : IsPlain word) :
    Anchor.wordBoundary.holds (.between before (word ++ rest)) = !Anchor.onWord before.head? := by
  obtain ⟨hne, hall⟩ := h
  cases word with
  | nil => exact absurd rfl hne
  | cons x word =>
      have hx : Text.isWord x = true := hall x (by simp)
      simp [Anchor.holds, Anchor.onWord, hx]

theorem wordBoundary_start (h : IsPlain word) :
    Anchor.wordBoundary.holds (.start (word ++ rest)) = true :=
  @wordBoundary_first word [] rest h

theorem wordBoundary_last (h : IsPlain word) :
    Anchor.wordBoundary.holds (.between (word.reverse ++ before) rest) =
      !Anchor.onWord rest.head? := by
  obtain ⟨hne, hall⟩ := h
  rcases List.eq_nil_or_concat word with rfl | ⟨init, x, rfl⟩
  · exact absurd rfl hne
  · have hx : Text.isWord x = true := hall x (by simp)
    simp [Anchor.holds, Anchor.onWord, hx]

end IsPlain

/-- One of several words is taken where it stands, unless a word character is next to it. -/
theorem mem_ways_wholeWord {words : List String} (hplain : ∀ w ∈ words, IsPlain w.toList) :
    r ∈ (wholeWord words).ways c caps ↔
      ∃ w ∈ words, ∃ rest, c.rest = w.toList ++ rest ∧
        Anchor.onWord c.before.head? = false ∧ Anchor.onWord rest.head? = false ∧
        r = (.between (w.toList.reverse ++ c.before) rest,
          ⟨1, c, .between (w.toList.reverse ++ c.before) rest⟩ :: caps) := by
  simp only [wholeWord, wordBoundary, mem_ways_concat_cons, mem_ways_concat_nil, mem_ways_anchor,
    mem_ways_group, mem_ways_firstOf, List.mem_map, Pattern.text]
  constructor
  · rintro ⟨q, ⟨hfirst, rfl⟩, q', ⟨d, caps', ⟨p, ⟨w, hw, rfl⟩, hword⟩, rfl⟩, q'', ⟨hlast, rfl⟩, rfl⟩
    obtain ⟨rest, hrest, heq⟩ := mem_ways_literal.1 hword
    obtain ⟨rfl, rfl⟩ : d = _ ∧ caps' = _ := by simpa using heq
    rw [← c.between_sides, hrest, (hplain w hw).wordBoundary_first] at hfirst
    rw [(hplain w hw).wordBoundary_last] at hlast
    exact ⟨w, hw, rest, hrest, by simpa using hfirst, by simpa using hlast, rfl⟩
  · rintro ⟨w, hw, rest, hrest, hbefore, hafter, rfl⟩
    have hfirst : Anchor.wordBoundary.holds c = true := by
      rw [← c.between_sides, hrest, (hplain w hw).wordBoundary_first, hbefore]
      rfl
    have hlast : Anchor.wordBoundary.holds (.between (w.toList.reverse ++ c.before) rest) = true := by
      rw [(hplain w hw).wordBoundary_last, hafter]
      rfl
    exact ⟨_, ⟨hfirst, rfl⟩, _, ⟨_, _, ⟨_, ⟨w, hw, rfl⟩, mem_ways_literal.2 ⟨rest, hrest, rfl⟩⟩, rfl⟩,
      _, ⟨hlast, rfl⟩, rfl⟩

/-- Group 1 of a match is one of the words; what comes before it in the match passes no group. -/
theorem exists_word_of_mem_findAll {lead : List Pattern} {words : List String} {text : Text} {m : Match}
    (hlead : ∀ p ∈ lead, p.hasGroup = false) (hplain : ∀ w ∈ words, IsPlain w.toList)
    (hm : m ∈ (concat (lead ++ [wholeWord words])).findAll text) :
    ∃ pre word post, text = pre ++ (word ++ post) ∧ String.ofList word ∈ words ∧
      m.group? 1 = some (pre.byteLength, (pre ++ word).byteLength) ∧
      Anchor.onWord pre.getLast? = false ∧ Anchor.onWord post.head? = false ∧
      (.between pre.reverse (word ++ post), []) ∈ (concat lead).ways m.first [] := by
  have hways := Match.mem_ways (matchAt_of_mem_findAll hm)
  obtain ⟨⟨c, caps⟩, hc, hr⟩ := mem_ways_concat_append.1 hways
  obtain ⟨hreach, rfl⟩ := ways_plain _ (hasGroup_concat hlead) _ _ _ hc
  obtain ⟨w, hw, rest, hrest, hbefore, hafter, heq⟩ := (mem_ways_wholeWord hplain).1 hr
  obtain ⟨-, hcaptures⟩ : m.last = _ ∧ m.captures = _ := by simpa using heq
  have htext : text = c.before.reverse ++ (w.toList ++ rest) := by
    rw [← text_of_mem_findAll hm, ← hreach.text_eq, Cursor.text, hrest]
  refine ⟨c.before.reverse, w.toList, rest, htext, ?_, ?_, ?_, hafter, ?_⟩
  · rwa [String.ofList_toList]
  · simp [Match.group?, hcaptures, Cursor.offset, Nat.add_comm]
  · rwa [List.getLast?_reverse]
  · rwa [List.reverse_reverse, ← hrest, c.between_sides]

end Pattern

end Highlighter
