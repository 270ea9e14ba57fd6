import Highlighter.Proofs.Script.Closers

/-!
The body of a regular expression literal. At each place at most one of the alternatives of its
pattern applies, so the pattern reads the body from left to right, as the lexer does.
-/
namespace Highlighter.Script

open Pattern

variable {before rest s : Text} {caps : Captures} {x y : Char}

/-- One step in a character class. -/
def classItem : Pattern := firstOf [escaped, char (.noneOf ['\\', ']'])]

/-- One step in a body. -/
def bodyItem : Pattern := firstOf [escaped, bracketed, char (.noneOf ['\\', '/', '['])]

theorem bracketed_eq : bracketed = concat [text "[", star classItem, opt (text "]")] := rfl

/-! ## Escapes -/

theorem ways_escaped_of_ne (hx : x ≠ '\\') : escaped.ways (.between before (x :: rest)) caps = [] := by
  have hnone : (literal ['\\']).ways (.between before (x :: rest)) caps = [] :=
    ways_literal_eq_nil (by simpa using Ne.symm hx)
  rw [escaped, ways_concat_cons, Ways.andThen]
  exact (congrArg (List.flatMap _) hnone).trans rfl

theorem first_escaped_pair (hy : y ≠ '\n') :
    escaped.ways.First (.between before ('\\' :: y :: rest)) caps
      (.between (y :: '\\' :: before) rest, caps) := by
  have hmember : (CharClass.noneOf ['\n']).contains y = true := by
    rw [CharClass.contains_noneOf]
    simpa using hy
  rw [escaped, ways_concat_cons]
  refine .andThen (first_literal ['\\']) ?_
  rw [concat, ways_opt]
  exact .optional_some (first_char hmember)

theorem first_escaped_alone (hs : s = [] ∨ s.head? = some '\n') :
    escaped.ways.First (.between before ('\\' :: s)) caps (.between ('\\' :: before) s, caps) := by
  rw [escaped, ways_concat_cons]
  refine .andThen (first_literal ['\\']) ?_
  rw [concat, ways_opt]
  refine .optional_none ?_
  rcases hs with rfl | hs
  · rfl
  · obtain ⟨tail, rfl⟩ := List.head?_eq_some_iff.1 hs
    simp [ways_char_cons, CharClass.noneOf, CharClass.oneOf, CharClass.contains]

/-- What runs of a pattern need to be read like a body: it stops at a closing character, takes escapes,
and reads any other text by items over which the lexer passes. -/
structure Items (p : Pattern) (inClass : Bool) (close : Char) : Prop where
  stopsAtEnd (before : Text) (caps : Captures) : p.ways (.between before []) caps = []
  stopsAtClose (before s : Text) (caps : Captures) : p.ways (.between before (close :: s)) caps = []
  takesEscaped {before s : Text} {caps : Captures} {r : Cursor × Captures}
    (h : escaped.ways.First (.between before s) caps r) : p.ways.First (.between before s) caps r
  takesLineEnd (before s : Text) (caps : Captures) :
    p.ways.First (.between before ('\n' :: s)) caps (.between ('\n' :: before) s, caps)
  takesOther {x : Char} (before s : Text) (caps : Captures) (hclose : x ≠ close) (hescape : x ≠ '\\') :
    ∃ item rest, x :: s = item ++ rest ∧ item ≠ [] ∧
      p.ways.First (.between before (x :: s)) caps (.between (item.reverse ++ before) rest, caps) ∧
      (Mode.regex inClass false).Passes item (some .string) (.regex inClass false) rest

/-- A backslash and the next character are two steps where the next one ends a line, else one. -/
theorem Items.runs_escaped_pair {p : Pattern} {inClass : Bool} {close : Char}
    (hp : Items p inClass close) {r : Cursor × Captures}
    (h : p.ways.Runs (.between (y :: '\\' :: before) s) caps r) :
    p.ways.Runs (.between before ('\\' :: y :: s)) caps r := by
  by_cases hy : y = '\n'
  · subst hy
    exact .more (hp.takesEscaped (first_escaped_alone (.inr rfl))) (by simp)
      (.more (hp.takesLineEnd ..) (by simp) h)
  · have hshorter : s.length < s.length + 2 := by omega
    exact .more (hp.takesEscaped (first_escaped_pair hy)) hshorter h

theorem passes_escaped_pair {inClass : Bool} {m : Mode} {inner : Text}
    (h : (Mode.regex inClass false).Passes inner (some .string) m rest) :
    (Mode.regex inClass false).Passes ('\\' :: y :: inner) (some .string) m rest :=
  .cons (m := .regex inClass true) (by simp [Mode.step, Mode.stepRegex])
    (.cons (by simp [Mode.step, Mode.stepRegex]) h)

theorem passes_escaped_end {inClass : Bool} :
    (Mode.regex inClass false).Passes ['\\'] (some .string) (.regex inClass false) [] :=
  .cons (m := .regex inClass true) (by simp [Mode.step, Mode.stepRegex]) (Mode.Passes.nil.congr rfl)

/-- Runs of items go up to the closing character or to the end of the text. -/
theorem Items.runs {p : Pattern} {inClass : Bool} {close : Char} (hp : Items p inClass close)
    (before s : Text) (caps : Captures) :
    ∃ inner rest, s = inner ++ rest ∧
      p.ways.Runs (.between before s) caps (.between (inner.reverse ++ before) rest, caps) ∧
      (Mode.regex inClass false).Passes inner (some .string) (.regex inClass false) rest ∧
      (rest = [] ∨ ∃ tail, rest = close :: tail) := by
  -- An item may be longer than one character, so the induction is on a bound for the length.
  obtain ⟨n, hn⟩ : ∃ n, s.length ≤ n := ⟨_, Nat.le_refl _⟩
  induction n generalizing before s with
  | zero =>
      obtain rfl := List.length_eq_zero_iff.1 (Nat.le_zero.1 hn)
      exact ⟨[], [], rfl, .done (hp.stopsAtEnd ..), .nil, .inl rfl⟩
  | succ n ih =>
      cases s with
      | nil => exact ⟨[], [], rfl, .done (hp.stopsAtEnd ..), .nil, .inl rfl⟩
      | cons x s =>
          simp only [List.length_cons] at hn
          by_cases hclose : x = close
          · subst hclose
            exact ⟨[], _, rfl, .done (hp.stopsAtClose ..), .nil, .inr ⟨s, rfl⟩⟩
          by_cases hescape : x = '\\'
          · subst hescape
            cases s with
            | nil =>
                exact ⟨['\\'], [], rfl,
                  .more (hp.takesEscaped (first_escaped_alone (.inl rfl))) (by simp) (.done (hp.stopsAtEnd ..)),
                  passes_escaped_end, .inl rfl⟩
            | cons y s =>
                simp only [List.length_cons] at hn
                obtain ⟨inner, rest, rfl, hruns, hpass, hrest⟩ := ih (y :: '\\' :: before) s (by omega)
                refine ⟨'\\' :: y :: inner, rest, rfl, ?_, passes_escaped_pair hpass, hrest⟩
                simpa using hp.runs_escaped_pair hruns
          · obtain ⟨item, s', hsplit, hne, hfirst, hitem⟩ := hp.takesOther before s caps hclose hescape
            have hshort : s'.length < s.length + 1 := by
              have hlength := congrArg List.length hsplit
              have hpos := List.length_pos_iff.2 hne
              simp only [List.length_cons, List.length_append] at hlength
              omega
            obtain ⟨inner, rest, rfl, hruns, hpass, hrest⟩ := ih (item.reverse ++ before) s' (by omega)
            refine ⟨item ++ inner, rest, by simpa using hsplit, ?_, hitem.append hpass, hrest⟩
            simpa using Ways.Runs.more hfirst hshort hruns

/-! ## Character classes -/

theorem ways_classItem :
    classItem.ways (.between before s) caps =
      escaped.ways (.between before s) caps ++
        (char (.noneOf ['\\', ']'])).ways (.between before s) caps := by
  rw [classItem, ways_firstOf_cons, firstOf]

theorem first_classItem_char (hx : x ≠ '\\') (hx' : x ≠ ']') :
    classItem.ways.First (.between before (x :: s)) caps (.between (x :: before) s, caps) := by
  have hmember : (CharClass.noneOf ['\\', ']']).contains x = true := by
    rw [CharClass.contains_noneOf]
    simp [hx, hx']
  rw [Ways.First, ways_classItem, ways_escaped_of_ne hx, List.nil_append]
  exact first_char hmember

theorem ways_classItem_close : classItem.ways (.between before (']' :: s)) caps = [] := by
  rw [ways_classItem, ways_escaped_of_ne (by decide)]
  simp [ways_char_cons, CharClass.noneOf, CharClass.oneOf, CharClass.contains]

theorem first_classItem_escaped {r : Cursor × Captures}
    (h : escaped.ways.First (.between before s) caps r) :
    classItem.ways.First (.between before s) caps r := by
  rw [Ways.First, ways_classItem]
  exact Ways.First.orElse_left h

theorem classItem_items : Items classItem true ']' where
  stopsAtEnd _ _ := rfl
  stopsAtClose _ _ _ := ways_classItem_close
  takesEscaped h := first_classItem_escaped h
  takesLineEnd _ _ _ := first_classItem_char (by decide) (by decide)
  takesOther {x} before s caps hclose hescape := by
    have hstep : (Mode.regex true false).step x s.head? = (some .string, .regex true false) := by
      simp [Mode.step, Mode.stepRegex, hescape, hclose]
    exact ⟨[x], s, rfl, by simp, first_classItem_char hescape hclose, .cons hstep .nil⟩

theorem first_bracketed (before s : Text) (caps : Captures) :
    ∃ inner rest, '[' :: s = inner ++ rest ∧ inner ≠ [] ∧
      bracketed.ways.First (.between before ('[' :: s)) caps
        (.between (inner.reverse ++ before) rest, caps) ∧
      (Mode.regex false false).Passes inner (some .string) (.regex false false) rest := by
  obtain ⟨inner, rest, rfl, hruns, hpass, hrest⟩ := classItem_items.runs ('[' :: before) s caps
  have hopen : (text "[").ways.First (.between before ('[' :: (inner ++ rest))) caps
      (.between ('[' :: before) (inner ++ rest), caps) := first_literal ['[']
  have hstep : (Mode.regex false false).step '[' (inner ++ rest).head? =
      (some .string, .regex true false) := rfl
  rw [bracketed_eq, ways_concat_cons, ways_concat_cons, concat, ways_opt]
  rcases hrest with rfl | ⟨tail, rfl⟩
  · refine ⟨'[' :: inner, [], rfl, by simp, .andThen hopen (.andThen hruns.rep ?_),
      .cons hstep (hpass.congr rfl)⟩
    simpa using Ways.First.optional_none (a := (text "]").ways) rfl
  · refine ⟨'[' :: (inner ++ [']']), tail, by simp, by simp,
      .andThen hopen (.andThen hruns.rep ?_), .cons (by simpa using hstep) ?_⟩
    · have hclose : (text "]").ways.First (.between (inner.reverse ++ '[' :: before) (']' :: tail)) caps
          (.between (']' :: (inner.reverse ++ '[' :: before)) tail, caps) := first_literal [']']
      simpa using Ways.First.optional_some hclose
    · exact .append (t := [']']) hpass (.cons rfl .nil)

/-! ## Bodies -/

theorem ways_bodyItem :
    bodyItem.ways (.between before s) caps =
      escaped.ways (.between before s) caps ++
        (bracketed.ways (.between before s) caps ++
          (char (.noneOf ['\\', '/', '['])).ways (.between before s) caps) := by
  rw [bodyItem, ways_firstOf_cons, ways_firstOf_cons, firstOf]

theorem ways_bracketed_of_ne (hx : x ≠ '[') :
    bracketed.ways (.between before (x :: rest)) caps = [] := by
  have hnone : (literal ['[']).ways (.between before (x :: rest)) caps = [] :=
    ways_literal_eq_nil (by simpa using Ne.symm hx)
  rw [bracketed_eq, ways_concat_cons, Ways.andThen]
  exact (congrArg (List.flatMap _) hnone).trans rfl

theorem first_bodyItem_escaped {r : Cursor × Captures}
    (h : escaped.ways.First (.between before s) caps r) :
    bodyItem.ways.First (.between before s) caps r := by
  obtain ⟨ws, hws⟩ := List.head?_eq_some_iff.1 h
  rw [Ways.First, ways_bodyItem, hws]
  rfl

theorem first_bodyItem_bracketed {r : Cursor × Captures}
    (h : bracketed.ways.First (.between before ('[' :: s)) caps r) :
    bodyItem.ways.First (.between before ('[' :: s)) caps r := by
  rw [Ways.First, ways_bodyItem, ways_escaped_of_ne (by decide), List.nil_append]
  exact Ways.First.orElse_left h

theorem first_bodyItem_char (hx : x ≠ '\\') (hslash : x ≠ '/') (hopen : x ≠ '[') :
    bodyItem.ways.First (.between before (x :: s)) caps (.between (x :: before) s, caps) := by
  have hmember : (CharClass.noneOf ['\\', '/', '[']).contains x = true := by
    rw [CharClass.contains_noneOf]
    simp [hx, hslash, hopen]
  rw [Ways.First, ways_bodyItem, ways_escaped_of_ne hx, ways_bracketed_of_ne hopen, List.nil_append,
    List.nil_append]
  exact first_char hmember

theorem ways_bodyItem_close : bodyItem.ways (.between before ('/' :: s)) caps = [] := by
  rw [ways_bodyItem, ways_escaped_of_ne (by decide), ways_bracketed_of_ne (by decide)]
  simp [ways_char_cons, CharClass.noneOf, CharClass.oneOf, CharClass.contains]

theorem bodyItem_items : Items bodyItem false '/' where
  stopsAtEnd _ _ := rfl
  stopsAtClose _ _ _ := ways_bodyItem_close
  takesEscaped h := first_bodyItem_escaped h
  takesLineEnd _ _ _ := first_bodyItem_char (by decide) (by decide) (by decide)
  takesOther {x} before s caps hclose hescape := by
    by_cases hopen : x = '['
    · subst hopen
      obtain ⟨item, rest, hsplit, hne, hfirst, hpass⟩ := first_bracketed before s caps
      exact ⟨item, rest, hsplit, hne, first_bodyItem_bracketed hfirst, hpass⟩
    · have hstep : (Mode.regex false false).step x s.head? = (some .string, .regex false false) := by
        simp [Mode.step, Mode.stepRegex, hescape, hclose, hopen]
      exact ⟨[x], s, rfl, by simp, first_bodyItem_char hescape hclose hopen, .cons hstep .nil⟩

/-! ## Literals -/

theorem lex_flags_of_not {x : Char} (hx : Mode.isFlag x = false) (s : Text) :
    Mode.flags.lex (x :: s) = (Mode.code false).lex (x :: s) := by
  simp [Mode.lex_cons, Mode.step, hx]

theorem passes_flags (s : Text) :
    Mode.flags.Passes (s.takeWhile Mode.isFlag) (some .string) (.code false)
      (s.dropWhile Mode.isFlag) := by
  induction s with
  | nil => exact Mode.Passes.nil.congr rfl
  | cons x s ih =>
      cases hx : Mode.isFlag x with
      | true =>
          rw [List.takeWhile_cons_of_pos hx, List.dropWhile_cons_of_pos hx]
          exact .cons (by simp [Mode.step, hx]) ih
      | false =>
          rw [List.takeWhile_cons_of_neg (by simp [hx]), List.dropWhile_cons_of_neg (by simp [hx])]
          exact Mode.Passes.nil.congr (lex_flags_of_not hx s)

/-- What closes a literal: a slash and flags, or the end of the text. -/
def literalEnd : Pattern :=
  firstOf [concat [text "/", star (char (.union (.range 'A' 'Z') (.range 'a' 'z')))], textEnd]

theorem regexBody_eq : regexBody = concat [textStart, star bodyItem, literalEnd] := rfl

theorem ways_literalEnd :
    literalEnd.ways (.between before s) caps =
      (concat [text "/", star (char (.union (.range 'A' 'Z') (.range 'a' 'z')))]).ways
          (.between before s) caps ++ textEnd.ways (.between before s) caps := by
  rw [literalEnd, ways_firstOf_cons, firstOf]

theorem first_literalEnd_nil :
    literalEnd.ways.First (.between before []) caps (.between before [], caps) := by
  rw [Ways.First, ways_literalEnd, ways_textEnd]
  rfl

theorem first_literalEnd_slash (before s : Text) (caps : Captures) :
    literalEnd.ways.First (.between before ('/' :: s)) caps
      (.between ((s.takeWhile Mode.isFlag).reverse ++ '/' :: before) (s.dropWhile Mode.isFlag),
        caps) := by
  have hslash : (text "/").ways.First (.between before ('/' :: s)) caps
      (.between ('/' :: before) s, caps) := first_literal ['/']
  have hflags := runs_char (.union (.range 'A' 'Z') (.range 'a' 'z')) ('/' :: before) s caps
  obtain ⟨ws, hws⟩ := List.head?_eq_some_iff.1 (hslash.andThen hflags.rep)
  rw [Ways.First, ways_literalEnd, ways_concat_cons, concat]
  exact (congrArg (fun l => List.head? (l ++ _)) hws).trans rfl

theorem first_regexBody (body : Text) :
    ∃ inner rest, body = inner ++ rest ∧ (inner = [] → rest = []) ∧
      regexBody.ways.First (.between [] body) [] (.between inner.reverse rest, []) ∧
      (Mode.regex false false).Passes inner (some .string) (.code false) rest := by
  obtain ⟨inner, rest, rfl, hruns, hpass, hrest⟩ := bodyItem_items.runs [] body []
  have hstart : textStart.ways.First (.between [] (inner ++ rest)) []
      (.between [] (inner ++ rest), []) := by
    simp [Ways.First, ways_textStart]
  rw [regexBody_eq, ways_concat_cons, ways_concat_cons, concat]
  rcases hrest with rfl | ⟨tail, rfl⟩
  · refine ⟨inner, [], rfl, fun _ => rfl, .andThen hstart (.andThen hruns.rep ?_), hpass.congr rfl⟩
    simpa using first_literalEnd_nil
  · refine ⟨inner ++ '/' :: tail.takeWhile Mode.isFlag, tail.dropWhile Mode.isFlag, by simp, by simp,
      .andThen hstart (.andThen hruns.rep ?_), ?_⟩
    · simpa using first_literalEnd_slash inner.reverse tail []
    · have hflags : (Mode.regex false false).Passes ('/' :: tail.takeWhile Mode.isFlag)
          (some .string) (.code false) (tail.dropWhile Mode.isFlag) :=
        .cons rfl (passes_flags tail)
      exact .append (by simpa using hpass) hflags

theorem closerIn_regex {body : Text} {r : Cursor × Captures}
    (h : regexBody.ways.First (.between [] body) [] r) :
    regexLiteral.closerIn body = some r.1.offset := by
  have hmatch : regexBody.matchAt (.start body) = some ⟨.start body, r.1, r.2⟩ := by
    rw [matchAt_eq]
    exact congrArg (Option.map _) h
  have hsearch := search_eq_of_matchAt hmatch
  simp [Construct.closerIn, regexLiteral, hsearch]

theorem regexOpener_closes : regexOpener.Closes where
  open_ {body} h := by
    obtain ⟨_, _, _, _, hfirst, _⟩ := first_regexBody body
    have hsome : regexOpener.construct.closerIn body = _ := closerIn_regex hfirst
    rw [hsome] at h
    cases h
  closed {body n} h := by
    obtain ⟨inner, rest, hbody, hne, hfirst, hpass⟩ := first_regexBody body
    have hsome : regexOpener.construct.closerIn body = _ := closerIn_regex hfirst
    rw [hsome, Option.some.injEq] at h
    exact ⟨inner, rest, hbody, by simpa [Cursor.offset] using h, hne, hpass⟩

end Highlighter.Script
