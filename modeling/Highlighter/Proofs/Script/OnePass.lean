import Highlighter.Proofs.Markup.Write
import Highlighter.Proofs.Script.RegexBody
import Highlighter.Script.ActionScript

/-! The constructs that are searched for one by one are those that the lexer finds in one pass. -/
namespace Highlighter.Script

variable {operand : Bool} {x : Char} {rest s : Text} {o : Opener}

/-! ## From the end of a construct to the next one -/

theorem fits_two {c d : Char} (ho : o.word = [c, d]) (hop : o.operand = false) :
    o.fits operand (x :: rest) = decide (x = c ∧ rest.head? = some d) := by
  rw [Bool.eq_iff_iff]
  cases rest with
  | nil => simp [Opener.fits, ho, hop, List.isPrefixOf]
  | cons y rest => simp [Opener.fits, ho, hop, List.isPrefixOf, @eq_comm _ c x, @eq_comm _ d y]

theorem fits_one {c : Char} (ho : o.word = [c]) (hop : o.operand = false) :
    o.fits operand (x :: rest) = decide (x = c) := by
  rw [Bool.eq_iff_iff]
  simp [Opener.fits, ho, hop, List.isPrefixOf, @eq_comm _ c x]

theorem find?_cons_decide {α : Type} {p : α → Bool} {a : α} {as : List α} {P : Prop} [Decidable P]
    (h : p a = decide P) : (a :: as).find? p = if P then some a else as.find? p := by
  rw [List.find?_cons, h]
  by_cases hP : P <;> simp [hP]

theorem find?_openers (operand : Bool) (x : Char) (rest : Text) :
    openers.find? (·.fits operand (x :: rest)) =
      if x = '/' ∧ rest.head? = some '*' then some blockOpener
      else if x = '/' ∧ rest.head? = some '/' then some lineOpener
      else if x = '"' then some doubleOpener
      else if x = '\'' then some singleOpener
      else if x = '\x60' then some templateOpener
      else if x = '/' ∧ operand then some regexOpener
      else none := by
  have hblock := @fits_two operand x rest blockOpener '/' '*' rfl rfl
  have hline := @fits_two operand x rest lineOpener '/' '/' rfl rfl
  have hdouble := @fits_one operand x rest doubleOpener '"' rfl rfl
  have hsingle := @fits_one operand x rest singleOpener '\'' rfl rfl
  have htemplate := @fits_one operand x rest templateOpener '\x60' rfl rfl
  have hregex : regexOpener.fits operand (x :: rest) = decide (x = '/' ∧ operand = true) := by
    rw [fits_regexOpener, Bool.eq_iff_iff]
    simp [And.comm]
  let p : Opener → Bool := (·.fits operand (x :: rest))
  change openers.find? p = _
  rw [openers, find?_cons_decide (p := p) hblock, find?_cons_decide (p := p) hline,
    find?_cons_decide (p := p) hdouble, find?_cons_decide (p := p) hsingle,
    find?_cons_decide (p := p) htemplate, find?_cons_decide (p := p) hregex, List.find?_nil]

theorem step_code_of_none (h : openers.find? (·.fits operand (x :: rest)) = none) :
    (Mode.code operand).step x rest.head? = (none, .code (Mode.operandAfter operand x)) := by
  rw [find?_openers] at h
  by_cases hstar : x = '/' ∧ rest.head? = some '*'
  · simp [hstar] at h
  by_cases hslash : x = '/' ∧ rest.head? = some '/'
  · simp [hslash] at h
  by_cases hquote : x = '"' ∨ x = '\'' ∨ x = '\x60'
  · rcases hquote with rfl | rfl | rfl <;> simp at h
  by_cases hregex : x = '/' ∧ operand = true
  · rw [if_neg hstar, if_neg hslash] at h
    simp [hregex] at h
  · rw [Mode.step, Mode.stepCode, if_neg hstar, if_neg hslash, if_neg hquote, if_neg hregex]

/-- Where an opener stands, the lexer passes over its word into the construct. -/
theorem passes_word (h : openers.find? (·.fits operand (x :: rest)) = some o) :
    ∃ tail, x :: rest = o.word ++ tail ∧
      (Mode.code operand).Passes o.word (some o.construct.category) o.inside tail := by
  rw [find?_openers] at h
  by_cases hstar : x = '/' ∧ rest.head? = some '*'
  · rw [if_pos hstar, Option.some.injEq] at h
    subst h
    obtain ⟨rfl, hrest⟩ := hstar
    obtain ⟨tail, rfl⟩ := List.head?_eq_some_iff.1 hrest
    exact ⟨tail, rfl, .cons (m := .blockOpening) rfl (.cons rfl .nil)⟩
  by_cases hslash : x = '/' ∧ rest.head? = some '/'
  · rw [if_neg hstar, if_pos hslash, Option.some.injEq] at h
    subst h
    obtain ⟨rfl, hrest⟩ := hslash
    obtain ⟨tail, rfl⟩ := List.head?_eq_some_iff.1 hrest
    exact ⟨tail, rfl, .cons (m := .line) rfl (.cons rfl .nil)⟩
  rw [if_neg hstar, if_neg hslash] at h
  by_cases hquote : x = '"' ∨ x = '\'' ∨ x = '\x60'
  · have hstep : (Mode.code operand).step x rest.head? = (some .string, .quoted x false) := by
      rw [Mode.step, Mode.stepCode, if_neg hstar, if_neg hslash, if_pos hquote]
    rcases hquote with rfl | rfl | rfl
    · obtain rfl : doubleOpener = o := by simpa using h
      exact ⟨rest, rfl, .cons hstep .nil⟩
    · obtain rfl : singleOpener = o := by simpa using h
      exact ⟨rest, rfl, .cons hstep .nil⟩
    · obtain rfl : templateOpener = o := by simpa using h
      exact ⟨rest, rfl, .cons hstep .nil⟩
  by_cases hregex : x = '/' ∧ operand = true
  · have hstep : (Mode.code operand).step x rest.head? = (some .string, .regex false false) := by
      rw [Mode.step, Mode.stepCode, if_neg hstar, if_neg hslash, if_neg hquote, if_pos hregex]
    obtain ⟨rfl, rfl⟩ := hregex
    obtain rfl : regexOpener = o := by simpa using h
    exact ⟨rest, rfl, .cons hstep .nil⟩
  · simp only [not_or] at hquote
    simp [hquote, hregex] at h

theorem lex_code_of_none (h : firstIn openers operand s = none) :
    (Mode.code operand).lex s = (.replicate s.byteLength none, .normal) := by
  induction s generalizing operand with
  | nil => rfl
  | cons x s ih =>
      simp only [firstIn] at h
      split at h
      · cases h
      · rename_i hnone
        rw [Mode.lex_cons, step_code_of_none hnone, ih (by simpa using h)]
        simp [← List.replicate_append_replicate]

/-- The lexer passes over plain script up to the first opener, and over its word. -/
theorem passes_to_opener {n : Nat} (h : firstIn openers operand s = some (n, o)) :
    ∃ gap tail, s = gap ++ (o.word ++ tail) ∧ gap.byteLength = n ∧
      ∃ m, (Mode.code operand).Passes gap none m (o.word ++ tail) ∧
        m.Passes o.word (some o.construct.category) o.inside tail := by
  induction s generalizing operand n with
  | nil => simp [firstIn] at h
  | cons x s ih =>
      simp only [firstIn] at h
      split at h
      · rename_i o' ho'
        obtain ⟨rfl, rfl⟩ : 0 = n ∧ o' = o := by simpa using h
        obtain ⟨tail, htail, hword⟩ := passes_word ho'
        exact ⟨[], tail, htail, rfl, _, .nil, hword⟩
      · rename_i hnone
        obtain ⟨⟨k, o'⟩, hr, heq⟩ := Option.map_eq_some_iff.1 h
        obtain ⟨rfl, rfl⟩ : x.utf8Size + k = n ∧ o' = o := by simpa using heq
        obtain ⟨gap, tail, rfl, rfl, m, hgap, hword⟩ := ih hr
        exact ⟨x :: gap, tail, rfl, rfl, m, .cons (step_code_of_none hnone) hgap, hword⟩

/-! ## Construct after construct -/

theorem closes_of_mem (h : o ∈ openers) : o.Closes := by
  simp only [openers, List.mem_cons, List.not_mem_nil, or_false] at h
  rcases h with rfl | rfl | rfl | rfl | rfl | rfl
  · exact blockOpener_closes
  · exact lineOpener_closes
  · exact doubleOpener_closes
  · exact singleOpener_closes
  · exact templateOpener_closes
  · exact regexOpener_closes

theorem findCloser_byteLength (construct : Construct) (pre body : Text) :
    construct.findCloser (pre ++ body) pre.byteLength =
      (construct.closerIn body).map (pre.byteLength + ·) := by
  rw [Construct.findCloser, Text.splitAt?_byteLength, Option.bind_some]

section Round

variable {fuel : Nat} {pre gap tail : Text}

theorem regionsFrom_of_none {post : Text} (h : firstIn openers (pre == []) post = none) :
    Construct.regionsFrom constructs (pre ++ post) (fuel + 1) pre.byteLength = ([], .normal) := by
  rw [Construct.regionsFrom, firstOpening_constructs, h]
  split <;> rfl

theorem firstOpening_of_some
    (h : firstIn openers (pre == []) (gap ++ (o.word ++ tail)) = some (gap.byteLength, o)) :
    Construct.firstOpening (pre ++ (gap ++ (o.word ++ tail))) pre.byteLength constructs =
      some ⟨(pre ++ gap).byteLength, (pre ++ gap ++ o.word).byteLength, o.construct⟩ := by
  rw [firstOpening_constructs, h]
  simp [opening, range, Nat.add_assoc]

theorem byteLength_pos_of_mem (ho : o ∈ openers) : 0 < o.word.byteLength := by
  cases hword : o.word with
  | nil => exact absurd hword (word_ne_nil ho)
  | cons x word =>
      have hx := x.utf8Size_pos
      rw [Text.byteLength_cons]
      omega

theorem regionsFrom_of_open (ho : o ∈ openers)
    (h : firstIn openers (pre == []) (gap ++ (o.word ++ tail)) = some (gap.byteLength, o))
    (hcloser : o.construct.closerIn tail = none) :
    Construct.regionsFrom constructs (pre ++ (gap ++ (o.word ++ tail))) (fuel + 1) pre.byteLength =
      ([⟨(pre ++ gap).byteLength, (pre ++ gap ++ (o.word ++ tail)).byteLength, o.construct.category⟩],
        ⟨o.construct.id⟩) := by
  have hword := byteLength_pos_of_mem ho
  have hlt : pre.byteLength < (pre ++ (gap ++ (o.word ++ tail))).byteLength := by
    simp only [Text.byteLength_append]
    omega
  have htext : pre ++ (gap ++ (o.word ++ tail)) = (pre ++ gap ++ o.word) ++ tail := by simp
  have hfind : o.construct.findCloser (pre ++ (gap ++ (o.word ++ tail)))
      (pre ++ gap ++ o.word).byteLength = none := by
    rw [htext, findCloser_byteLength, hcloser, Option.map_none]
  rw [Construct.regionsFrom, if_pos hlt, firstOpening_of_some h]
  simp only [hfind]
  simp only [List.append_assoc]

theorem regionsFrom_of_closed {inner rest : Text} (ho : o ∈ openers)
    (h : firstIn openers (pre == []) (gap ++ (o.word ++ (inner ++ rest))) = some (gap.byteLength, o))
    (hcloser : o.construct.closerIn (inner ++ rest) = some inner.byteLength) :
    Construct.regionsFrom constructs (pre ++ (gap ++ (o.word ++ (inner ++ rest)))) (fuel + 1)
        pre.byteLength =
      (⟨(pre ++ gap).byteLength, (pre ++ gap ++ (o.word ++ inner)).byteLength, o.construct.category⟩ ::
          (Construct.regionsFrom constructs ((pre ++ gap ++ (o.word ++ inner)) ++ rest) fuel
            (pre ++ gap ++ (o.word ++ inner)).byteLength).1,
        (Construct.regionsFrom constructs ((pre ++ gap ++ (o.word ++ inner)) ++ rest) fuel
          (pre ++ gap ++ (o.word ++ inner)).byteLength).2) := by
  have hword := byteLength_pos_of_mem ho
  have hlt : pre.byteLength < (pre ++ (gap ++ (o.word ++ (inner ++ rest)))).byteLength := by
    simp only [Text.byteLength_append]
    omega
  have htext : pre ++ (gap ++ (o.word ++ (inner ++ rest))) =
      (pre ++ gap ++ o.word) ++ (inner ++ rest) := by simp
  have hfind : o.construct.findCloser (pre ++ (gap ++ (o.word ++ (inner ++ rest))))
      (pre ++ gap ++ o.word).byteLength = some (pre ++ gap ++ (o.word ++ inner)).byteLength := by
    rw [htext, findCloser_byteLength, hcloser]
    simp [Nat.add_assoc]
  have hmax : max (pre ++ gap ++ (o.word ++ inner)).byteLength ((pre ++ gap).byteLength + 1) =
      (pre ++ gap ++ (o.word ++ inner)).byteLength := by
    simp only [Text.byteLength_append]
    omega
  rw [Construct.regionsFrom, if_pos hlt, firstOpening_of_some h]
  simp only [hfind, hmax]
  simp only [List.append_assoc]

end Round

/-- Painting the constructs from a place on, where nothing is known yet, gives what the lexer says. -/
theorem paintAll_regionsFrom {fuel : Nat} (pre post : Text) (filled : List Slot)
    (hfuel : post.byteLength ≤ fuel) (hfilled : filled.length = pre.byteLength) :
    (Markup.mk (filled ++ .replicate post.byteLength none)).paintAll
        (Construct.regionsFrom constructs (pre ++ post) fuel pre.byteLength).1 =
      ⟨filled ++ ((Mode.code (pre == [])).lex post).1⟩ ∧
    (Construct.regionsFrom constructs (pre ++ post) fuel pre.byteLength).2 =
      ((Mode.code (pre == [])).lex post).2 := by
  -- A round fills the slots up to the end of one construct, and `pre` grows by what it has filled.
  induction fuel generalizing pre post filled with
  | zero =>
      cases post with
      | nil => simp [Construct.regionsFrom, Markup.paintAll, Mode.lex, Mode.final]
      | cons x post =>
          have hx := x.utf8Size_pos
          simp only [Text.byteLength_cons] at hfuel
          omega
  | succ fuel ih =>
      cases hit : firstIn openers (pre == []) post with
      | none =>
          rw [regionsFrom_of_none hit, lex_code_of_none hit]
          exact ⟨rfl, rfl⟩
      | some r =>
          obtain ⟨n, o⟩ := r
          obtain ⟨gap, tail, rfl, rfl, m, hgap, hword⟩ := passes_to_opener hit
          have ho : o ∈ openers := mem_of_firstIn hit
          have hsize := byteLength_pos_of_mem ho
          have hstart : (pre ++ gap).byteLength = filled.length + gap.byteLength := by
            simp [hfilled]
          simp only [Text.byteLength_append] at hfuel
          cases hcloser : o.construct.closerIn tail with
          | none =>
              have hlex := (closes_of_mem ho).open_ hcloser
              have htotal : (gap ++ (o.word ++ tail)).byteLength =
                  gap.byteLength + ((o.word ++ tail).byteLength + 0) := by simp
              rw [regionsFrom_of_open ho hit hcloser, hgap, hword, hlex,
                Markup.paintAll_cons_unknown filled _ _ htotal hstart (Text.byteLength_append ..)]
              simp [Markup.paintAll, ← List.replicate_append_replicate]
          | some k =>
              obtain ⟨inner, rest, rfl, rfl, -, hpass⟩ := (closes_of_mem ho).closed hcloser
              have htotal : (gap ++ (o.word ++ (inner ++ rest))).byteLength =
                  gap.byteLength + ((o.word ++ inner).byteLength + rest.byteLength) := by
                simp [Nat.add_assoc]
              simp only [Text.byteLength_append] at hfuel
              have hrest := @ih (pre ++ gap ++ (o.word ++ inner)) rest
                (filled ++ .replicate gap.byteLength none ++
                  .replicate (o.word ++ inner).byteLength (some o.construct.category))
                (by omega) (by simp [hfilled])
              have hcode : (pre ++ gap ++ (o.word ++ inner) == []) = false := by
                simp [word_ne_nil ho]
              rw [hcode] at hrest
              rw [regionsFrom_of_closed ho hit hcloser, hgap, hword, hpass,
                Markup.paintAll_cons_unknown filled _ _ htotal hstart (Text.byteLength_append ..)]
              refine ⟨hrest.1.trans ?_, hrest.2⟩
              simp [← List.replicate_append_replicate]

theorem continued?_constructs (state : LineState) :
    (Construct.continued? constructs state = none ∧ Mode.start state = .code true) ∨
      ∃ o ∈ openers, Construct.continued? constructs state = some o.construct ∧
        Mode.start state = o.inside ∧ state = ⟨o.construct.id⟩ := by
  obtain ⟨n⟩ := state
  match n with
  | 0 => exact .inl ⟨rfl, rfl⟩
  | 1 => exact .inr ⟨blockOpener, by simp [openers], rfl, rfl, rfl⟩
  | 2 => exact .inr ⟨lineOpener, by simp [openers], rfl, rfl, rfl⟩
  | 3 => exact .inr ⟨doubleOpener, by simp [openers], rfl, rfl, rfl⟩
  | 4 => exact .inr ⟨singleOpener, by simp [openers], rfl, rfl, rfl⟩
  | 5 => exact .inr ⟨templateOpener, by simp [openers], rfl, rfl, rfl⟩
  | 6 => exact .inr ⟨regexOpener, by simp [openers], rfl, rfl, rfl⟩
  | n + 7 => exact .inl ⟨rfl, rfl⟩

theorem scan_constructs (text : Text) (state : LineState) :
    (Markup.blank text.byteLength).scan constructs text state =
      (⟨((Mode.start state).lex text).1⟩, ((Mode.start state).lex text).2) := by
  rw [Markup.scan, Construct.regions]
  rcases continued?_constructs state with ⟨hnone, hmode⟩ | ⟨o, ho, hsome, hmode, rfl⟩
  · rw [hnone, hmode]
    obtain ⟨hmarkup, hstate⟩ :=
      @paintAll_regionsFrom text.byteLength [] text [] (Nat.le_refl _) rfl
    exact Prod.ext hmarkup hstate
  · rw [hsome, hmode]
    have hfind : o.construct.findCloser text 0 = (o.construct.closerIn text).map (0 + ·) :=
      findCloser_byteLength o.construct [] text
    cases hcloser : o.construct.closerIn text with
    | none =>
        have hpaint := @Markup.paintAll_cons_unknown [] 0 text.byteLength 0 text.byteLength 0
          text.byteLength o.construct.category [] (by simp) rfl (by simp)
        rw [(closes_of_mem ho).open_ hcloser]
        simp only [hfind, hcloser, Option.map_none]
        simpa [Markup.paintAll, Markup.blank] using hpaint
    | some k =>
        obtain ⟨inner, rest, rfl, rfl, hrest, hpass⟩ := (closes_of_mem ho).closed hcloser
        have hcode : (Mode.code (inner == [])).lex rest = (Mode.code false).lex rest := by
          cases inner with
          | nil => rw [hrest rfl]; rfl
          | cons x inner => rfl
        have hpaint := fun spans => @Markup.paintAll_cons_unknown [] 0 inner.byteLength
          rest.byteLength (inner ++ rest).byteLength 0 inner.byteLength o.construct.category spans
          (by simp) rfl (by simp)
        obtain ⟨hmarkup, hstate⟩ := @paintAll_regionsFrom (inner ++ rest).byteLength inner rest
          (.replicate inner.byteLength (some o.construct.category)) (by simp) (by simp)
        rw [hcode] at hmarkup hstate
        rw [hpass]
        simp only [hfind, hcloser, Option.map_some, Nat.zero_add]
        exact Prod.ext ((hpaint _).trans hmarkup) hstate

/-- Every highlighter for scripts finds the constructs of the lexer. -/
theorem scan_eq_lex (level base : Level) (text : Text) (state : LineState) :
    (Markup.blank text.byteLength).scan (ecmaScript level).constructs text state =
        (⟨((Mode.start state).lex text).1⟩, ((Mode.start state).lex text).2) ∧
      (Markup.blank text.byteLength).scan (actionScriptOn base).constructs text state =
        (⟨((Mode.start state).lex text).1⟩, ((Mode.start state).lex text).2) :=
  ⟨scan_constructs text state, scan_constructs text state⟩

end Highlighter.Script
