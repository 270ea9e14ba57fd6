import Highlighter.Proofs.Construct.Escape
import Highlighter.Proofs.Script.Openers

/-! Where constructs close: the search for a closer ends where the lexer leaves the construct. -/
namespace Highlighter.Script

open Pattern

variable {before rest s : Text} {caps : Captures}

/-- The closer of the construct ends where the lexer, begun in its mode, is back in plain script. -/
structure Opener.Closes (o : Opener) : Prop where
  open_ : ∀ {body}, o.construct.closerIn body = none →
    o.inside.lex body = (.replicate body.byteLength (some o.construct.category), ⟨o.construct.id⟩)
  closed : ∀ {body n}, o.construct.closerIn body = some n →
    ∃ inner rest, body = inner ++ rest ∧ inner.byteLength = n ∧ (inner = [] → rest = []) ∧
      o.inside.Passes inner (some o.construct.category) (.code false) rest

/-! ## Comments -/

theorem matchAt_blockCloser (before tail : Text) :
    (literal ['*', '/']).matchAt (.between before ('*' :: '/' :: tail)) =
      some ⟨.between before ('*' :: '/' :: tail), .between ('/' :: '*' :: before) tail, []⟩ :=
  matchAt_literal_append ['*', '/']

theorem block_search_none (h : (literal ['*', '/']).search (.between before s) = none) :
    Mode.block.lex s = (.replicate s.byteLength (some .comment), ⟨1⟩) := by
  induction s generalizing before with
  | nil => rfl
  | cons x s ih =>
      rw [search_between_cons, Option.or_eq_none_iff] at h
      have hnot : ¬ (x = '*' ∧ s.head? = some '/') := by
        rintro ⟨rfl, hs⟩
        obtain ⟨tail, rfl⟩ := List.head?_eq_some_iff.1 hs
        simp [matchAt_blockCloser] at h
      rw [Mode.lex_cons, Mode.step, if_neg hnot, ih h.2]
      simp [← List.replicate_append_replicate]

theorem block_search_some {m : Match}
    (h : (literal ['*', '/']).search (.between before s) = some m) :
    ∃ inner rest, s = inner ++ rest ∧ m.last = .between (inner.reverse ++ before) rest ∧
      inner ≠ [] ∧ Mode.block.Passes inner (some .comment) (.code false) rest := by
  induction s generalizing before with
  | nil => cases h
  | cons x s ih =>
      rw [search_between_cons] at h
      by_cases hx : x = '*' ∧ s.head? = some '/'
      · obtain ⟨rfl, hs⟩ := hx
        obtain ⟨tail, rfl⟩ := List.head?_eq_some_iff.1 hs
        rw [matchAt_blockCloser, Option.some_or, Option.some.injEq] at h
        subst h
        exact ⟨['*', '/'], tail, rfl, rfl, by simp, .cons (m := .blockClosing) rfl (.cons rfl .nil)⟩
      · have hnone : (literal ['*', '/']).matchAt (.between before (x :: s)) = none := by
          refine matchAt_literal_eq_none fun hpre => hx ?_
          obtain ⟨tail, htail⟩ := hpre
          simp only [List.cons_append, List.nil_append, List.cons.injEq] at htail
          exact ⟨htail.1.symm, by simp [← htail.2]⟩
        rw [hnone, Option.none_or] at h
        obtain ⟨inner, rest, rfl, hlast, _, hpass⟩ := ih h
        refine ⟨x :: inner, rest, rfl, by simp [hlast], by simp, .cons (m := .block) ?_ hpass⟩
        rw [Mode.step, if_neg hx]

theorem blockOpener_closes : blockOpener.Closes where
  open_ h := block_search_none (Option.map_eq_none_iff.1 h)
  closed h := by
    obtain ⟨m, hm, rfl⟩ := Option.map_eq_some_iff.1 h
    obtain ⟨inner, rest, rfl, hlast, hne, hpass⟩ := block_search_some hm
    exact ⟨inner, rest, rfl, by simp [hlast, Cursor.offset], fun h => absurd h hne, hpass⟩

theorem lex_line (s : Text) : Mode.line.lex s = (.replicate s.byteLength (some .comment), .normal) := by
  induction s with
  | nil => rfl
  | cons x s ih =>
      rw [Mode.lex_cons]
      simp [Mode.step, ih, ← List.replicate_append_replicate]

theorem closerIn_line (body : Text) : lineComment.closerIn body = some body.byteLength := by
  have hsearch := search_textEnd [] body
  simp [lineComment, Construct.closerIn, Cursor.start, hsearch, Cursor.offset]

theorem lineOpener_closes : lineOpener.Closes where
  open_ {body} h := by
    have hsome : lineOpener.construct.closerIn body = some body.byteLength := closerIn_line body
    rw [hsome] at h
    cases h
  closed {body n} h := by
    have hsome : lineOpener.construct.closerIn body = some body.byteLength := closerIn_line body
    rw [hsome, Option.some.injEq] at h
    refine ⟨body, [], by simp, h, fun _ => rfl, ?_⟩
    have hlex := lex_line body
    simpa [Mode.Passes, Mode.lex, lineOpener, lineComment, Mode.final] using hlex

/-! ## Strings -/

section Quoted

variable {d : Char} {orEnd escaped : Bool} {x : Char}

theorem stepQuoted_close (hd : d ≠ '\\') : Mode.stepQuoted d false d = .code false := by
  simp [Mode.stepQuoted, hd]

theorem stepQuoted_stay (hx : ¬ (x = d ∧ escaped = false)) :
    Mode.stepQuoted d escaped x = .quoted d (x == '\\' && !escaped) := by
  cases escaped with
  | true => simp [Mode.stepQuoted]
  | false =>
      have hne : x ≠ d := fun h => hx ⟨h, rfl⟩
      by_cases hb : x = '\\'
      · simp [Mode.stepQuoted, hb]
      · simp [Mode.stepQuoted, hb, hne]

theorem lex_quoted_of_none {last : LineState}
    (hlast : ∀ escaped, (orEnd && !escaped) = false → (Mode.quoted d escaped).final = last)
    (h : Text.closing? '\\' d orEnd escaped s = none) :
    (Mode.quoted d escaped).lex s = (.replicate s.byteLength (some .string), last) := by
  induction s generalizing escaped with
  | nil =>
      have hend : (orEnd && !escaped) = false := by simpa [Text.closing?] using h
      simp [Mode.lex, hlast escaped hend]
  | cons x s ih =>
      rw [Text.closing?] at h
      split at h
      case isTrue => cases h
      case isFalse hx =>
        rw [Mode.lex_cons, Mode.step, stepQuoted_stay hx, ih (Option.map_eq_none_iff.1 h)]
        simp [← List.replicate_append_replicate]

theorem passes_quoted_of_some {n : Nat} (hd : d ≠ '\\')
    (hend : orEnd = true → (Mode.quoted d false).final = .normal)
    (h : Text.closing? '\\' d orEnd escaped s = some n) :
    ∃ inner rest, s = inner ++ rest ∧ inner.byteLength = n ∧ (inner = [] → rest = []) ∧
      (Mode.quoted d escaped).Passes inner (some .string) (.code false) rest := by
  induction s generalizing escaped n with
  | nil =>
      obtain ⟨⟨horEnd, rfl⟩, rfl⟩ : (orEnd = true ∧ escaped = false) ∧ 0 = n := by
        simpa [Text.closing?] using h
      refine ⟨[], [], rfl, rfl, fun _ => rfl, ?_⟩
      have hcode : (Mode.code false).final = .normal := rfl
      simp [Mode.Passes, Mode.lex, hend horEnd, hcode]
  | cons x s ih =>
      rw [Text.closing?] at h
      split at h
      case isTrue hx =>
        obtain ⟨rfl, rfl⟩ := hx
        cases h
        refine ⟨[x], s, rfl, by simp, by simp, .cons (m := .code false) ?_ .nil⟩
        rw [Mode.step, stepQuoted_close hd]
      case isFalse hx =>
        obtain ⟨k, hk, rfl⟩ := Option.map_eq_some_iff.1 h
        obtain ⟨inner, rest, rfl, rfl, _, hpass⟩ := ih hk
        refine ⟨x :: inner, rest, rfl, rfl, by simp, .cons ?_ hpass⟩
        rw [Mode.step, stepQuoted_stay hx]

theorem quoted_closes {o : Opener} (hinside : o.inside = .quoted d false)
    (hcategory : o.construct.category = .string) (hcloser : o.construct.closer = .delimiter d orEnd)
    (hescape : o.construct.escape = some '\\') (hd : d ≠ '\\')
    (hlast : ∀ escaped, (orEnd && !escaped) = false →
      (Mode.quoted d escaped).final = ⟨o.construct.id⟩)
    (hend : orEnd = true → (Mode.quoted d false).final = .normal) : o.Closes where
  open_ {body} h := by
    rw [Construct.closerIn_delimiter hcloser hescape hd] at h
    rw [hinside, hcategory]
    exact lex_quoted_of_none hlast h
  closed {body n} h := by
    rw [Construct.closerIn_delimiter hcloser hescape hd] at h
    rw [hinside, hcategory]
    exact passes_quoted_of_some hd hend h

end Quoted

theorem doubleOpener_closes : doubleOpener.Closes :=
  @quoted_closes '"' true _ rfl rfl rfl rfl (by decide) (by decide) (by decide)

theorem singleOpener_closes : singleOpener.Closes :=
  @quoted_closes '\'' true _ rfl rfl rfl rfl (by decide) (by decide) (by decide)

theorem templateOpener_closes : templateOpener.Closes :=
  @quoted_closes '\x60' false _ rfl rfl rfl rfl (by decide) (by decide) (by decide)

end Highlighter.Script
