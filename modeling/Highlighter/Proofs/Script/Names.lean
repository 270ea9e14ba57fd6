import Mathlib.Data.List.Chain
import Highlighter.Proofs.Pattern.Takes
import Highlighter.Proofs.Script.Words

/-!
Identifiers, dotted names and types as the rules for scripts read them. Their patterns are greedy, so
of a text that goes on with a character of another kind they prefer to take the whole.
-/
namespace Highlighter

/-! ## Kinds of characters -/

theorem Text.forall_ascii {P : Char → Prop} (h : ∀ n < 0x80, P (Char.ofNat n)) {x : Char}
    (hx : x.toNat < 0x80) : P x := by
  have hp := h x.toNat hx
  rwa [Char.ofNat_toNat] at hp

theorem Text.isWord_of_isBlank {x : Char} (h : isBlank x = true) : isWord x = false := by
  have hascii : ∀ n < 0x80, isBlank (Char.ofNat n) = true → isWord (Char.ofNat n) = false := by
    decide +kernel
  have hdisjoint : ∀ r ∈ blankTable, ∀ s ∈ wordTable, r.2 < s.1 ∨ s.2 < r.1 := by decide +kernel
  by_cases hx : x.toNat < 0x80
  · exact forall_ascii (P := fun x => isBlank x = true → isWord x = false) hascii hx h
  · have hval : ¬ x.val < 0x80 := by simpa [UInt32.lt_iff_toNat_lt] using hx
    rw [isWord, if_neg hval]
    refine Bool.eq_false_iff.2 fun hword => ?_
    obtain ⟨r, hr, hlo, hhi⟩ := RangeTable.contains_iff.1 h
    obtain ⟨s, hs, hlo', hhi'⟩ := RangeTable.contains_iff.1 hword
    rcases hdisjoint r hr s hs with hlt | hlt
    · omega
    · omega

namespace Script

open Pattern

theorem isBlank_of_isWord {x : Char} (h : Text.isWord x = true) : Text.isBlank x = false := by
  cases hblank : Text.isBlank x with
  | false => rfl
  | true =>
      rw [Text.isWord_of_isBlank hblank] at h
      cases h

theorem lt_of_identifierStart {x : Char} (h : identifierStart.contains x = true) :
    x.toNat < 0x80 := by
  simp only [identifierStart, CharClass.contains, Bool.or_eq_true, Bool.and_eq_true,
    decide_eq_true_eq, beq_iff_eq, Char.le_def, UInt32.le_iff_toNat_le] at h
  rcases h with ⟨-, h⟩ | ⟨-, h⟩ | rfl | rfl
  · exact Nat.lt_of_le_of_lt h (by decide)
  · exact Nat.lt_of_le_of_lt h (by decide)
  · decide
  · decide

theorem identifierRest_of_start {x : Char} (h : identifierStart.contains x = true) :
    identifierRest.contains x = true := by
  have hascii : ∀ n < 0x80, identifierStart.contains (Char.ofNat n) = true →
      identifierRest.contains (Char.ofNat n) = true := by
    decide +kernel
  exact Text.forall_ascii (P := fun x => identifierStart.contains x = true →
    identifierRest.contains x = true) hascii (lt_of_identifierStart h) h

/-! ## Identifiers -/

structure IsIdentifier (t : Text) : Prop where
  starts : ∃ x ∈ t.head?, identifierStart.contains x = true
  rest : ∀ x ∈ t, identifierRest.contains x = true

theorem isIdentifier_cons {x : Char} {t : Text} :
    IsIdentifier (x :: t) ↔
      identifierStart.contains x = true ∧ ∀ y ∈ t, identifierRest.contains y = true := by
  constructor
  · rintro ⟨⟨y, hy, hstart⟩, hrest⟩
    obtain rfl : x = y := by simpa using hy
    exact ⟨hstart, fun y hy => hrest y (List.mem_cons_of_mem _ hy)⟩
  · rintro ⟨hstart, hrest⟩
    exact ⟨⟨x, rfl, hstart⟩, List.forall_mem_cons.2 ⟨identifierRest_of_start hstart, hrest⟩⟩

theorem isIdentifier_iff {t : Text} :
    IsIdentifier t ↔ t.head?.any identifierStart.contains ∧ t.all identifierRest.contains := by
  rw [Option.any_eq_true, List.all_eq_true]
  exact ⟨fun h => ⟨h.starts, h.rest⟩, fun h => ⟨h.1, h.2⟩⟩

instance (t : Text) : Decidable (IsIdentifier t) := decidable_of_iff _ isIdentifier_iff.symm

theorem IsIdentifier.ne_nil {t : Text} (h : IsIdentifier t) : t ≠ [] := by
  rintro rfl
  obtain ⟨x, hx, -⟩ := h.starts
  cases hx

section

variable {c : Cursor} {caps : Captures} {r : Cursor × Captures} {before rest t : Text}

theorem mem_ways_gap :
    r ∈ gap.ways c caps ↔
      ∃ blanks rest, c.rest = blanks ++ rest ∧ (∀ x ∈ blanks, Text.isBlank x = true) ∧
        r = (.between (blanks.reverse ++ c.before) rest, caps) :=
  mem_ways_star_char

theorem mem_ways_space :
    r ∈ space.ways c caps ↔
      ∃ x blanks rest, c.rest = x :: (blanks ++ rest) ∧ Text.isBlank x = true ∧
        (∀ x ∈ blanks, Text.isBlank x = true) ∧
        r = (.between (blanks.reverse ++ x :: c.before) rest, caps) :=
  mem_ways_plus_char

theorem mem_ways_identifier :
    r ∈ identifier.ways c caps ↔
      ∃ name rest, c.rest = name ++ rest ∧ IsIdentifier name ∧
        r = (.between (name.reverse ++ c.before) rest, caps) := by
  simp only [identifier, mem_ways_concat_cons, mem_ways_concat_nil, mem_ways_char, mem_ways_star_char]
  constructor
  · rintro ⟨_, ⟨x, tail, hrest, hx, rfl⟩, _, ⟨more, post, htail, hmore, rfl⟩, rfl⟩
    obtain rfl : tail = more ++ post := htail
    exact ⟨x :: more, post, hrest, isIdentifier_cons.2 ⟨hx, hmore⟩, by simp⟩
  · rintro ⟨name, post, hrest, hname, rfl⟩
    cases name with
    | nil => exact absurd rfl hname.ne_nil
    | cons x more =>
        obtain ⟨hx, hmore⟩ := isIdentifier_cons.1 hname
        exact ⟨_, ⟨x, more ++ post, hrest, hx, rfl⟩, _, ⟨more, post, rfl, hmore, rfl⟩, by simp⟩

theorem way_gap {blanks : Text} (h : ∀ x ∈ blanks, Text.isBlank x = true) :
    (.between (blanks.reverse ++ before) rest, caps) ∈
      gap.ways (.between before (blanks ++ rest)) caps :=
  mem_ways_gap.2 ⟨blanks, rest, rfl, h, rfl⟩

theorem way_space :
    (.between (' ' :: before) rest, caps) ∈ space.ways (.between before (' ' :: rest)) caps :=
  mem_ways_space.2 ⟨' ', [], rest, rfl, by decide, by simp, rfl⟩

theorem way_identifier (h : IsIdentifier t) :
    (.between (t.reverse ++ before) rest, caps) ∈ identifier.ways (.between before (t ++ rest)) caps :=
  mem_ways_identifier.2 ⟨t, rest, rfl, h, rfl⟩

theorem first_gap (ht : ∀ x ∈ t, Text.isBlank x = true)
    (hrest : ∀ x ∈ rest.head?, Text.isBlank x = false) :
    gap.ways.First (.between before (t ++ rest)) caps (.between (t.reverse ++ before) rest, caps) :=
  first_star_char ht hrest

theorem first_space (hrest : ∀ x ∈ rest.head?, Text.isBlank x = false) :
    space.ways.First (.between before (' ' :: rest)) caps (.between (' ' :: before) rest, caps) := by
  have hfirst : space.ways.First (.between before ([' '] ++ rest)) caps
      (.between ([' '].reverse ++ before) rest, caps) := first_plus_char (by simp) (by decide) hrest
  exact hfirst

theorem first_identifier (ht : IsIdentifier t)
    (hrest : ∀ x ∈ rest.head?, identifierRest.contains x = false) :
    identifier.ways.First (.between before (t ++ rest)) caps
      (.between (t.reverse ++ before) rest, caps) := by
  cases t with
  | nil => exact absurd rfl ht.ne_nil
  | cons x t =>
      obtain ⟨hx, ht⟩ := isIdentifier_cons.1 ht
      have hstar : (star (char identifierRest)).ways.First (.between (x :: before) (t ++ rest)) caps
          (.between (t.reverse ++ x :: before) rest, caps) := first_star_char ht hrest
      have hboth := first_concat_cons hstar first_concat_nil
      simpa [identifier] using first_concat_cons (first_char hx) hboth

end

/-! ## Dotted names -/

/-- Names of a kind, joined by dots. -/
inductive Dotted (ok : Text → Prop) : Text → Prop
  | one {name} (h : ok name) : Dotted ok name
  | more {name rest} (h : ok name) (hrest : Dotted ok rest) : Dotted ok (name ++ '.' :: rest)

namespace Dotted

variable {ok ok' : Text → Prop} {s t : Text}

theorem append (hs : Dotted ok s) (ht : Dotted ok t) : Dotted ok (s ++ '.' :: t) := by
  induction hs with
  | one h => exact .more h ht
  | more h _ ih =>
      rw [List.append_assoc]
      exact .more h ih

theorem imp (h : ∀ name, ok name → ok' name) (ht : Dotted ok t) : Dotted ok' t := by
  induction ht with
  | one hname => exact .one (h _ hname)
  | more hname _ ih => exact .more (h _ hname) ih

end Dotted

section

variable {c : Cursor} {caps : Captures} {r : Cursor × Captures} {before rest t : Text}

def nextName : Pattern := concat [Pattern.text ".", identifier]

theorem dottedName_eq : dottedName = concat [identifier, star nextName] := rfl

/-- What the repetition of a dotted name goes over: nothing, or a dot and a dotted name. -/
def MoreNames (t : Text) : Prop := t = [] ∨ ∃ rest, t = '.' :: rest ∧ Dotted IsIdentifier rest

theorem MoreNames.append {a b : Text} (ha : MoreNames a) (hb : MoreNames b) : MoreNames (a ++ b) := by
  rcases ha with rfl | ⟨a, rfl, ha⟩
  · exact hb
  · rcases hb with rfl | ⟨b, rfl, hb⟩
    · exact .inr ⟨a, by simp, ha⟩
    · exact .inr ⟨a ++ '.' :: b, by simp, ha.append hb⟩

theorem mem_ways_nextName :
    r ∈ nextName.ways c caps ↔
      ∃ name rest, c.rest = '.' :: (name ++ rest) ∧ IsIdentifier name ∧
        r = (.between (name.reverse ++ '.' :: c.before) rest, caps) := by
  simp only [nextName, mem_ways_concat_cons, mem_ways_concat_nil, Pattern.text, mem_ways_literal,
    mem_ways_identifier]
  constructor
  · rintro ⟨_, ⟨tail, hrest, rfl⟩, _, ⟨name, post, htail, hname, rfl⟩, rfl⟩
    obtain rfl : tail = name ++ post := htail
    exact ⟨name, post, hrest, hname, rfl⟩
  · rintro ⟨name, post, hrest, hname, rfl⟩
    exact ⟨_, ⟨name ++ post, hrest, rfl⟩, _, ⟨name, post, rfl, hname, rfl⟩, rfl⟩

theorem ways_nextName_over : nextName.ways.Keep (.Over MoreNames) := by
  intro c caps r hr
  obtain ⟨name, rest, hrest, hname, rfl⟩ := mem_ways_nextName.1 hr
  exact ⟨rfl, '.' :: name, .inr ⟨name, rfl, .one hname⟩, hrest, by simp⟩

theorem exists_dotted_of_ways (h : r ∈ dottedName.ways c caps) :
    ∃ t rest, c.rest = t ++ rest ∧ Dotted IsIdentifier t ∧
      r = (.between (t.reverse ++ c.before) rest, caps) := by
  rw [dottedName_eq, mem_ways_concat_cons] at h
  obtain ⟨_, hway, h⟩ := h
  obtain ⟨name, tail, hrest, hname, rfl⟩ := mem_ways_identifier.1 hway
  obtain ⟨hcaps, more, hmore, htail, hbefore⟩ := ways_nextName_over.rep
    (Passage.over_closed (.inl rfl) MoreNames.append) .greedy 0 none _ _ _ h
  obtain rfl : tail = more ++ r.1.rest := htail
  have hr : r = (.between ((name ++ more).reverse ++ c.before) r.1.rest, caps) :=
    Prod.ext (Cursor.ext_sides (by simp [hbefore]) rfl) hcaps
  refine ⟨name ++ more, r.1.rest, by simp [hrest], ?_, hr⟩
  rcases hmore with rfl | ⟨rest, rfl, hdotted⟩
  · rw [List.append_nil]
    exact .one hname
  · exact .more hname hdotted

/-- The text does not go on a dotted name. -/
structure EndsName (rest : Text) : Prop where
  ends : ∀ x ∈ rest.head?, identifierRest.contains x = false
  noName : ∀ x tail, rest = '.' :: x :: tail → identifierStart.contains x = false

theorem ways_nextName_of_endsName (hrest : EndsName rest) :
    nextName.ways (.between before rest) caps = [] := by
  refine List.eq_nil_iff_forall_not_mem.2 fun r hr => ?_
  obtain ⟨name, post, htail, hname, -⟩ := mem_ways_nextName.1 hr
  obtain ⟨x, hx, hstart⟩ := hname.starts
  obtain ⟨tail, rfl⟩ := List.head?_eq_some_iff.1 hx
  rw [hrest.noName x (tail ++ post) htail] at hstart
  cases hstart

theorem first_nextName (ht : IsIdentifier t)
    (hrest : ∀ x ∈ rest.head?, identifierRest.contains x = false) :
    nextName.ways.First (.between before ('.' :: (t ++ rest))) caps
      (.between (t.reverse ++ '.' :: before) rest, caps) :=
  first_concat_cons (first_literal ['.'])
    (first_concat_cons (first_identifier ht hrest) first_concat_nil)

theorem identifierRest_dot : identifierRest.contains '.' = false := by decide +kernel

theorem identifierRest_space : identifierRest.contains ' ' = false := by decide +kernel

theorem identifierRest_paren : identifierRest.contains '(' = false := by decide +kernel

theorem runs_nextName (ht : Dotted IsIdentifier t) (hrest : EndsName rest) :
    nextName.ways.Runs (.between before ('.' :: (t ++ rest))) caps
      (.between (t.reverse ++ '.' :: before) rest, caps) := by
  induction ht generalizing before with
  | one h =>
      refine .more (first_nextName h hrest.ends) ?_ (.done (ways_nextName_of_endsName hrest))
      simp only [Cursor.between_ahead, List.length_cons, List.length_append]
      omega
  | @more name t h _ ih =>
      have hdot : ∀ x ∈ ('.' :: (t ++ rest)).head?, identifierRest.contains x = false := by
        simp [identifierRest_dot]
      have hmore := @ih (name.reverse ++ '.' :: before)
      rw [List.append_assoc, List.cons_append, List.reverse_append, List.append_assoc]
      refine .more (first_nextName h hdot) ?_ (by simpa using hmore)
      simp only [Cursor.between_ahead, List.length_cons, List.length_append]
      omega

theorem first_dottedName (ht : Dotted IsIdentifier t) (hrest : EndsName rest) :
    dottedName.ways.First (.between before (t ++ rest)) caps
      (.between (t.reverse ++ before) rest, caps) := by
  rw [dottedName_eq]
  cases ht with
  | one h =>
      have hdone : nextName.ways.Runs (.between (t.reverse ++ before) rest) caps
          (.between (t.reverse ++ before) rest, caps) := .done (ways_nextName_of_endsName hrest)
      exact first_concat_cons (first_identifier h hrest.ends)
        (first_concat_cons hdone.rep first_concat_nil)
  | @more name t h ht =>
      have hdot : ∀ x ∈ ('.' :: (t ++ rest)).head?, identifierRest.contains x = false := by
        simp [identifierRest_dot]
      have hnext : (star nextName).ways.First
          (.between (name.reverse ++ before) ('.' :: (t ++ rest))) caps
          (.between (t.reverse ++ '.' :: (name.reverse ++ before)) rest, caps) :=
        (runs_nextName ht hrest).rep
      rw [List.append_assoc, List.cons_append]
      have hboth := first_concat_cons hnext first_concat_nil
      simpa using first_concat_cons (first_identifier h hdot) hboth

end

/-! ## Types -/

/-- A character between the angle brackets of a type. -/
def vectorChar : CharClass := .union .word (.oneOf ['$', '.', '*'])

def vector : Pattern := concat [Pattern.text ".<", plus (char vectorChar), Pattern.text ">"]

theorem typeExpression_eq :
    typeExpression = firstOf [Pattern.text "*", concat [dottedName, opt vector]] := rfl

inductive TypeText : Text → Prop
  | any : TypeText ['*']
  | name {t} (h : Dotted IsIdentifier t) : TypeText t
  | vector {t p} (h : Dotted IsIdentifier t) (hne : p ≠ [])
      (hp : ∀ x ∈ p, vectorChar.contains x = true) : TypeText (t ++ '.' :: '<' :: (p ++ ['>']))

theorem matches_typeExpression_of_way {c : Cursor} {caps : Captures} {r : Cursor × Captures}
    (h : r ∈ typeExpression.ways c caps) :
    ∃ t rest, c.rest = t ++ rest ∧ TypeText t ∧ r = (.between (t.reverse ++ c.before) rest, caps) := by
  rw [typeExpression_eq] at h
  obtain ⟨p, hp, h⟩ := mem_ways_firstOf.1 h
  simp only [List.mem_cons, List.not_mem_nil, or_false] at hp
  rcases hp with rfl | rfl
  · obtain ⟨rest, hrest, rfl⟩ := mem_ways_literal.1 h
    exact ⟨['*'], rest, hrest, .any, rfl⟩
  · obtain ⟨_, hname, h⟩ := mem_ways_concat_cons.1 h
    obtain ⟨t, rest, hrest, ht, rfl⟩ := exists_dotted_of_ways hname
    rcases mem_ways_opt.1 h with h | rfl
    · simp only [vector, mem_ways_concat_cons, mem_ways_concat_nil, Pattern.text, mem_ways_literal,
        mem_ways_plus_char] at h
      obtain ⟨_, ⟨tail, htail, rfl⟩, _, ⟨x, p, tail', htail', hx, hp, rfl⟩, _, ⟨post, hpost, rfl⟩,
        rfl⟩ := h
      obtain rfl : rest = '.' :: '<' :: tail := htail
      obtain rfl : tail = x :: (p ++ tail') := htail'
      obtain rfl : tail' = '>' :: post := hpost
      exact ⟨t ++ '.' :: '<' :: ((x :: p) ++ ['>']), post, by simp [hrest],
        .vector ht (by simp) (List.forall_mem_cons.2 ⟨hx, hp⟩), by simp⟩
    · exact ⟨t, rest, hrest, .name ht, rfl⟩

theorem identifierStart_star : identifierStart.contains '*' = false := by decide +kernel

theorem Dotted.head {t : Text} (h : Dotted IsIdentifier t) :
    ∃ x ∈ t.head?, identifierStart.contains x = true := by
  cases h with
  | one h => exact h.starts
  | @more name t h _ =>
      obtain ⟨x, hx, hstart⟩ := h.starts
      obtain ⟨tail, rfl⟩ := List.head?_eq_some_iff.1 hx
      exact ⟨x, rfl, hstart⟩

theorem ways_vector_eq_nil {before rest : Text} {caps : Captures}
    (hrest : ∀ x ∈ rest.head?, x ≠ '.') : vector.ways (.between before rest) caps = [] := by
  refine List.eq_nil_iff_forall_not_mem.2 fun r hr => ?_
  obtain ⟨_, hdot, -⟩ := mem_ways_concat_cons.1 hr
  obtain ⟨tail, rfl, -⟩ := mem_ways_literal.1 hdot
  exact hrest '.' rfl rfl

theorem vectorChar_close : vectorChar.contains '>' = false := by decide +kernel

theorem first_vector {before rest p : Text} {caps : Captures} (hne : p ≠ [])
    (hp : ∀ x ∈ p, vectorChar.contains x = true) :
    vector.ways.First (.between before ('.' :: '<' :: (p ++ ['>'] ++ rest))) caps
      (.between ('>' :: (p.reverse ++ '<' :: '.' :: before)) rest, caps) := by
  have hclose : ∀ x ∈ ('>' :: rest).head?, vectorChar.contains x = false := by
    simp [vectorChar_close]
  have hchars : (plus (char vectorChar)).ways.First (.between ('<' :: '.' :: before) (p ++ '>' :: rest))
      caps (.between (p.reverse ++ '<' :: '.' :: before) ('>' :: rest), caps) :=
    first_plus_char hne hp hclose
  rw [List.append_assoc]
  exact first_concat_cons (first_literal ['.', '<'])
    (first_concat_cons hchars (first_concat_cons (first_literal ['>']) first_concat_nil))

/-- A text that does not go on with a character of a type is preferred to its beginnings. -/
theorem first_typeExpression {before rest t : Text} {caps : Captures} (ht : TypeText t)
    (hrest : ∀ x ∈ rest.head?, identifierRest.contains x = false ∧ x ≠ '.') :
    typeExpression.ways.First (.between before (t ++ rest)) caps
      (.between (t.reverse ++ before) rest, caps) := by
  have hends : EndsName rest :=
    ⟨fun x hx => (hrest x hx).1, fun x tail heq => absurd rfl (hrest '.' (by simp [heq])).2⟩
  -- a dotted name is no star
  have hother : ∀ {t rest : Text} {r}, Dotted IsIdentifier t →
      (concat [dottedName, opt vector]).ways.First (.between before (t ++ rest)) caps r →
      typeExpression.ways.First (.between before (t ++ rest)) caps r := by
    intro t rest r ht hr
    obtain ⟨x, hx, hstart⟩ := ht.head
    obtain ⟨tail, rfl⟩ := List.head?_eq_some_iff.1 hx
    have hstar : (Pattern.text "*").ways (.between before (x :: tail ++ rest)) caps = [] := by
      refine ways_literal_eq_nil fun hprefix => ?_
      obtain rfl : '*' = x := by simpa using hprefix
      rw [identifierStart_star] at hstart
      cases hstart
    exact Ways.First.orElse_right hstar hr
  cases ht with
  | any => exact Ways.First.orElse_left (first_literal ['*'])
  | name h =>
      refine hother h (first_concat_cons (first_dottedName h hends) ?_)
      exact first_concat_cons (first_opt_none (ways_vector_eq_nil fun x hx => (hrest x hx).2))
        first_concat_nil
  | @vector t p h hne hp =>
      have hopen : EndsName ('.' :: '<' :: (p ++ ['>'] ++ rest)) := by
        refine ⟨by simp [identifierRest_dot], fun x tail heq => ?_⟩
        obtain rfl : '<' = x := by simpa using (List.cons.inj (List.cons.inj heq).2).1
        decide +kernel
      rw [List.append_assoc]
      refine hother h (first_concat_cons (first_dottedName h hopen) ?_)
      have hvector := first_concat_cons (first_opt_some (@first_vector (t.reverse ++ before) rest p
        caps hne hp)) first_concat_nil
      simpa using hvector

theorem isBlank_of_identifierRest {x : Char} (h : identifierRest.contains x = true) :
    Text.isBlank x = false := by
  rcases contains_identifierRest.1 h with hword | rfl
  · exact isBlank_of_isWord hword
  · decide

theorem Dotted.no_blank_before {s t : Text} (h : Dotted IsIdentifier t) :
    ∀ x ∈ (t ++ s).head?, Text.isBlank x = false := by
  obtain ⟨x, hx, hstart⟩ := h.head
  obtain ⟨tail, rfl⟩ := List.head?_eq_some_iff.1 hx
  simpa using isBlank_of_identifierRest (identifierRest_of_start hstart)

theorem TypeText.no_blank_before {t : Text} (h : TypeText t) :
    ∀ x ∈ t.head?, Text.isBlank x = false := by
  cases h with
  | any => decide
  | name h => simpa using h.no_blank_before (s := [])
  | vector h _ _ => exact h.no_blank_before

theorem matches_typeExpression_iff {t : Text} : typeExpression.Matches t ↔ TypeText t := by
  constructor
  · rintro ⟨caps, hway⟩
    obtain ⟨t', rest, hrest, ht, heq⟩ := matches_typeExpression_of_way hway
    obtain ⟨hend, -⟩ : Cursor.between t.reverse [] = .between (t'.reverse ++ []) rest ∧ caps = [] := by
      simpa [Cursor.start] using heq
    have hnil : rest = [] := (congrArg Cursor.rest hend).symm
    subst hnil
    obtain rfl : t = t' := by simpa [Cursor.start] using hrest
    exact ht
  · intro ht
    have hfirst := @first_typeExpression [] [] t [] ht (by simp)
    rw [List.append_nil, List.append_nil] at hfirst
    exact ⟨[], List.mem_of_head? hfirst⟩

/-! ## Names -/

/-- A letter of ASCII or the underscore, and word characters after it. -/
structure IsName (t : Text) : Prop where
  starts : ∃ x ∈ t.head?, ('A' ≤ x ∧ x ≤ 'Z') ∨ ('a' ≤ x ∧ x ≤ 'z') ∨ x = '_'
  word : ∀ x ∈ t, Text.isWord x = true

instance (t : Text) : Decidable (IsName t) :=
  decidable_of_iff
    ((∃ x ∈ t.head?, ('A' ≤ x ∧ x ≤ 'Z') ∨ ('a' ≤ x ∧ x ≤ 'z') ∨ x = '_') ∧
      ∀ x ∈ t, Text.isWord x = true)
    ⟨fun h => ⟨h.1, h.2⟩, fun h => ⟨h.1, h.2⟩⟩

/-- The words of all lists that mark whole words, but for the members of the core objects. -/
def reservedWords : List String := keywords ++ basicTypes ++ constants ++ addedKeywords

theorem mem_reservedWords {w : String} :
    w ∈ reservedWords ↔ w ∈ keywords ∨ w ∈ basicTypes ∨ w ∈ constants ∨ w ∈ addedKeywords := by
  simp only [reservedWords, List.mem_append, or_assoc]

def IsPlainName (t : Text) : Prop := IsName t ∧ String.ofList t ∉ reservedWords

/-- A name that may stand for a type: one that is not reserved, or a basic type with a value. -/
def IsTypeName (t : Text) : Prop :=
  IsName t ∧ (String.ofList t ∈ reservedWords → String.ofList t ∈ basicTypes ∧ t ≠ "void".toList)

instance (t : Text) : Decidable (IsPlainName t) := inferInstanceAs (Decidable (_ ∧ _))

instance (t : Text) : Decidable (IsTypeName t) := inferInstanceAs (Decidable (_ ∧ (_ → _)))

section

variable {t : Text}

theorem IsName.identifier (h : IsName t) : IsIdentifier t where
  starts := by
    obtain ⟨x, hx, hstart⟩ := h.starts
    refine ⟨x, hx, ?_⟩
    simp only [identifierStart, CharClass.contains, Bool.or_eq_true, Bool.and_eq_true,
      decide_eq_true_eq, beq_iff_eq]
    rcases hstart with hupper | hlower | hunderscore
    · exact .inl hupper
    · exact .inr (.inl hlower)
    · exact .inr (.inr (.inl hunderscore))
  rest x hx := contains_identifierRest.2 (.inl (h.word x hx))

theorem IsName.ne_nil (h : IsName t) : t ≠ [] := h.identifier.ne_nil

theorem IsName.not_mem (h : IsName t) {x : Char} (hx : Text.isWord x = false) : x ∉ t := by
  intro hmem
  rw [h.word x hmem] at hx
  cases hx

theorem IsPlainName.typeName (h : IsPlainName t) : IsTypeName t := ⟨h.1, fun hmem => absurd hmem h.2⟩

theorem IsTypeName.identifier (h : IsTypeName t) : IsIdentifier t := h.1.identifier

end

/-- A type in a declaration: any, a name, or a name with a type in angle brackets. -/
inductive DeclaredType : Text → Prop
  | any : DeclaredType ['*']
  | name {t} (h : Dotted IsTypeName t) : DeclaredType t
  | vector {t p} (h : Dotted IsTypeName t) (hp : p = ['*'] ∨ Dotted IsTypeName p) :
      DeclaredType (t ++ '.' :: '<' :: (p ++ ['>']))

section

variable {s t : Text}

theorem vectorChar_of_rest {x : Char} (h : identifierRest.contains x = true ∨ x = '.') :
    vectorChar.contains x = true := by
  rcases h with h | rfl
  · rcases contains_identifierRest.1 h with hword | rfl
    · simp [vectorChar, CharClass.contains, hword]
    · decide
  · decide

theorem Dotted.mem {x : Char} (h : Dotted IsIdentifier t) (hx : x ∈ t) :
    identifierRest.contains x = true ∨ x = '.' := by
  induction h with
  | one h => exact .inl (h.rest x hx)
  | more h _ ih =>
      rcases List.mem_append.1 hx with hx | hx
      · exact .inl (h.rest x hx)
      · rcases List.mem_cons.1 hx with rfl | hx
        · exact .inr rfl
        · exact ih hx

theorem Dotted.ne_nil (h : Dotted IsIdentifier t) : t ≠ [] := by
  rintro rfl
  obtain ⟨x, hx, -⟩ := h.head
  cases hx

theorem TypeText.ne_nil (h : TypeText t) : t ≠ [] := by
  cases h with
  | any => simp
  | name h => exact h.ne_nil
  | vector _ _ _ => simp

theorem Dotted.identifiers (h : Dotted IsTypeName t) : Dotted IsIdentifier t :=
  h.imp fun _ hname => hname.identifier

theorem DeclaredType.typeText (h : DeclaredType t) : TypeText t := by
  cases h with
  | any => exact .any
  | name h => exact .name h.identifiers
  | vector h hp =>
      rcases hp with rfl | hp
      · exact .vector h.identifiers (by simp) (by decide)
      · exact .vector h.identifiers hp.identifiers.ne_nil fun x hx =>
          vectorChar_of_rest (hp.identifiers.mem hx)

/-- What a run of word characters in a type can be. -/
theorem Dotted.eachRun {ok : Text → Prop} (hok : ∀ name, ok name → ∀ x ∈ name, Text.isWord x = true)
    (h : Dotted ok t) : Text.EachRun Text.isWord ok t := by
  induction h with
  | one h => exact .of_all (hok _ h) h
  | more h _ ih => exact .append_cons (.of_all (hok _ h) h) (by decide) ih

theorem DeclaredType.eachRun (h : DeclaredType t) : Text.EachRun Text.isWord IsTypeName t := by
  have hword : ∀ name, IsTypeName name → ∀ x ∈ name, Text.isWord x = true := fun _ h => h.1.word
  cases h with
  | any => exact .of_none (by decide)
  | name h => exact h.eachRun hword
  | @vector t p h hp =>
      have hinner : Text.EachRun Text.isWord IsTypeName p := by
        rcases hp with rfl | hp
        · exact .of_none (by decide)
        · exact hp.eachRun hword
      have hopen : Text.EachRun Text.isWord IsTypeName ('<' :: (p ++ ['>'])) :=
        .append_cons (a := []) (.of_none (by simp)) (by decide)
          (.append_cons hinner (by decide) (.of_none (by simp)))
      exact .append_cons (h.eachRun hword) (by decide) hopen

/-- No dot follows another one. -/
def SingleDots (t : Text) : Prop := t.IsChain fun x y => x = '.' → y ≠ '.'

theorem SingleDots.append_left (hs : '.' ∉ s) (ht : SingleDots t) : SingleDots (s ++ t) := by
  induction s with
  | nil => exact ht
  | cons x s ih =>
      simp only [List.mem_cons, not_or] at hs
      obtain ⟨hx, hs⟩ := hs
      exact List.isChain_cons.2 ⟨fun _ _ hdot => absurd hdot.symm hx, ih hs⟩

theorem SingleDots.cons_dot (hhead : ∀ x ∈ t.head?, x ≠ '.') (ht : SingleDots t) :
    SingleDots ('.' :: t) :=
  List.isChain_cons.2 ⟨fun x hx _ => hhead x hx, ht⟩

theorem IsIdentifier.dot_not_mem (h : IsIdentifier t) : '.' ∉ t := by
  intro hmem
  have hrest := h.rest '.' hmem
  rw [identifierRest_dot] at hrest
  cases hrest

theorem Dotted.head_ne_dot (h : Dotted IsIdentifier t) : ∀ x ∈ (t ++ s).head?, x ≠ '.' := by
  obtain ⟨x, hx, hstart⟩ := h.head
  obtain ⟨tail, rfl⟩ := List.head?_eq_some_iff.1 hx
  rintro y hy rfl
  obtain rfl : x = '.' := by simpa using hy
  exact absurd (identifierRest_of_start hstart) (by simp [identifierRest_dot])

theorem Dotted.singleDots (h : Dotted IsIdentifier t) (hs : SingleDots s) : SingleDots (t ++ s) := by
  induction h with
  | one h => exact hs.append_left h.dot_not_mem
  | more h hrest ih =>
      rw [List.append_assoc, List.cons_append]
      exact (ih.cons_dot hrest.head_ne_dot).append_left h.dot_not_mem

theorem DeclaredType.singleDots (h : DeclaredType t) : SingleDots t := by
  have hnil : SingleDots [] := List.isChain_nil
  cases h with
  | any => exact hnil.append_left (s := ['*']) (by decide)
  | name h => simpa using h.identifiers.singleDots hnil
  | @vector t p h hp =>
      have hclose : SingleDots ['>'] := hnil.append_left (s := ['>']) (by decide)
      have hinner : SingleDots (p ++ ['>']) := by
        rcases hp with rfl | hp
        · exact hclose.append_left (by decide)
        · exact hp.identifiers.singleDots hclose
      exact h.identifiers.singleDots
        (.cons_dot (by simp) (.append_left (s := ['<']) (by decide) hinner))

theorem SingleDots.not_ellipsis {post : Text} (h : SingleDots (s ++ ("...".toList ++ post))) : False := by
  have hdots := (List.isChain_append.1 h).2.1
  exact (List.isChain_cons.1 hdots).1 '.' rfl rfl rfl

end

end Script

end Highlighter
