import Highlighter.Proofs.Script.OnePass

/-!
The states in which a line can end. A string in quotes goes on only behind a backslash that no other
one escapes, and the lexer's mode counts the backslashes of a string by twos.
-/
namespace Highlighter

/-- The text ends in a run of the character whose length is odd. -/
def Text.EndsInOddRun (c : Char) (text : Text) : Prop :=
  ∃ pre n, text = pre ++ List.replicate (2 * n + 1) c ∧ pre.getLast? ≠ some c

theorem Text.endsInOddRun_of_isEscaped {c : Char} {text : Text}
    (h : isEscaped c text.reverse = true) : EndsInOddRun c text := by
  have hrun : text.reverse.takeWhile (· == c) =
      List.replicate (text.reverse.takeWhile (· == c)).length c := by
    refine List.eq_replicate_iff.2 ⟨rfl, fun x hx => ?_⟩
    simpa using List.all_eq_true.1 List.all_takeWhile x hx
  have hodd : (text.reverse.takeWhile (· == c)).length =
      2 * ((text.reverse.takeWhile (· == c)).length / 2) + 1 := by
    simp only [isEscaped, beq_iff_eq] at h
    omega
  refine ⟨(text.reverse.dropWhile (· == c)).reverse,
    (text.reverse.takeWhile (· == c)).length / 2, ?_, ?_⟩
  · calc text = (text.reverse.takeWhile (· == c) ++ text.reverse.dropWhile (· == c)).reverse := by
          rw [List.takeWhile_append_dropWhile, List.reverse_reverse]
      _ = (text.reverse.dropWhile (· == c)).reverse ++
          List.replicate (text.reverse.takeWhile (· == c)).length c := by
          rw [List.reverse_append, hrun, List.reverse_replicate, List.length_replicate]
      _ = _ := by rw [← hodd]
  · intro hlast
    rw [List.getLast?_reverse] at hlast
    have hnot := List.head?_dropWhile_not (· == c) text.reverse
    simp [hlast] at hnot

namespace Script

namespace Mode

variable {mode : Mode} {before : Text}

/-- The mode at the end of a text. -/
def last (mode : Mode) : Text → Mode
  | [] => mode
  | x :: rest => last (mode.step x rest.head?).2 rest

theorem lex_snd (mode : Mode) (s : Text) : (mode.lex s).2 = (mode.last s).final := by
  induction s generalizing mode with
  | nil => rfl
  | cons x s ih => exact ih _

theorem final_mem (mode : Mode) : mode.final.construct ∈ [0, 1, 3, 4, 5] := by
  unfold final
  split <;> decide

/-- In a string, the mode says whether the backslashes before the place escape what comes. -/
def Counts (mode : Mode) (before : Text) : Prop :=
  ∀ d escaped, mode = quoted d escaped → escaped = Text.isEscaped '\\' before

theorem counts_stepCode (operand : Bool) (x : Char) (next : Option Char) (before : Text) :
    (stepCode operand x next).2.Counts (x :: before) := by
  intro d escaped hmode
  unfold stepCode at hmode
  split at hmode
  · cases hmode
  · split at hmode
    · cases hmode
    · split at hmode
      · rename_i hquote
        obtain ⟨rfl, rfl⟩ : x = d ∧ false = escaped := by simpa using hmode
        rcases hquote with rfl | rfl | rfl <;> rfl
      · split at hmode
        · cases hmode
        · cases hmode

theorem Counts.step (h : mode.Counts before) (x : Char) (next : Option Char) :
    (mode.step x next).2.Counts (x :: before) := by
  cases mode with
  | code operand => exact counts_stepCode operand x next before
  | blockOpening =>
      intro d escaped hmode
      cases hmode
  | block =>
      intro d escaped hmode
      simp only [Mode.step] at hmode
      split at hmode
      · cases hmode
      · cases hmode
  | blockClosing =>
      intro d escaped hmode
      cases hmode
  | line =>
      intro d escaped hmode
      cases hmode
  | quoted delimiter odd =>
      intro d escaped hmode
      rw [Text.isEscaped_cons, ← h delimiter odd rfl]
      simp only [Mode.step, stepQuoted] at hmode
      split at hmode
      · rename_i hodd
        obtain ⟨-, rfl⟩ : delimiter = d ∧ false = escaped := by simpa using hmode
        simp [hodd]
      · rename_i hodd
        split at hmode
        · rename_i hx
          obtain ⟨-, rfl⟩ : delimiter = d ∧ true = escaped := by simpa using hmode
          simp [hx, hodd]
        · rename_i hx
          split at hmode
          · cases hmode
          · obtain ⟨-, rfl⟩ : delimiter = d ∧ false = escaped := by simpa using hmode
            simp [hx]
  | regex inClass escaped =>
      intro d escaped' hmode
      simp only [Mode.step, stepRegex] at hmode
      split at hmode
      · cases hmode
      · split at hmode
        · cases hmode
        · split at hmode
          · cases hmode
          · split at hmode
            · cases hmode
            · cases hmode
  | flags =>
      simp only [Mode.step]
      split
      · intro d escaped hmode
        cases hmode
      · exact counts_stepCode false x next before

theorem Counts.last (h : mode.Counts before) (s : Text) :
    (mode.last s).Counts (s.reverse ++ before) := by
  induction s generalizing mode before with
  | nil => exact h
  | cons x s ih => simpa [Mode.last] using ih (h.step x s.head?)

theorem counts_start (state : LineState) : (start state).Counts [] := by
  intro d escaped hmode
  obtain ⟨n⟩ := state
  match n with
  | 0 | 1 | 2 | 6 | n + 7 => cases hmode
  | 3 | 4 | 5 =>
      cases hmode
      rfl

/-- A string in quotes is open at the end only behind a backslash that counts. -/
theorem exists_quoted_of_final (h : mode.final.construct = 3 ∨ mode.final.construct = 4) :
    ∃ d, mode = quoted d true := by
  cases mode with
  | quoted d escaped =>
      cases escaped with
      | true => exact ⟨d, rfl⟩
      | false =>
          -- a string that nothing escapes is closed by the end, unless it is a template
          unfold final at h
          split at h <;> simp_all [LineState.normal]
  | code operand => simp [final, LineState.normal] at h
  | blockOpening => simp [final] at h
  | block => simp [final] at h
  | blockClosing => simp [final] at h
  | line => simp [final, LineState.normal] at h
  | regex inClass escaped => simp [final, LineState.normal] at h
  | flags => simp [final, LineState.normal] at h

end Mode

variable {level base : Level} {text : Text} {state : LineState} {engine : Engine}

theorem state_highlightLine (h : engine ∈ [ecmaScript level, actionScriptOn base]) :
    (engine.highlightLine text state).state = ((Mode.start state).last text).final := by
  have hconstructs : engine.constructs = constructs := by
    simp only [List.mem_cons, List.not_mem_nil, or_false] at h
    rcases h with rfl | rfl <;> rfl
  have hstate : (engine.highlightLine text state).state =
      ((Markup.blank text.byteLength).scan engine.constructs text state).2 := rfl
  rw [hstate, hconstructs, scan_constructs, Mode.lex_snd]

theorem endsInOddRun_of_state (h : ((Mode.start state).last text).final.construct = 3 ∨
    ((Mode.start state).last text).final.construct = 4) : text.EndsInOddRun '\\' := by
  obtain ⟨d, hlast⟩ := Mode.exists_quoted_of_final h
  have hcounts := (Mode.counts_start state).last text d true hlast
  rw [List.append_nil] at hcounts
  exact Text.endsInOddRun_of_isEscaped hcounts.symm

theorem exists_findCloser (construct : Construct) (h : construct ∈ [lineComment, regexLiteral])
    (pre body : Text) : ∃ stop, construct.findCloser (pre ++ body) pre.byteLength = some stop := by
  rw [findCloser_byteLength]
  simp only [List.mem_cons, List.not_mem_nil, or_false] at h
  rcases h with rfl | rfl
  · exact ⟨_, congrArg _ (closerIn_line body)⟩
  · obtain ⟨inner, rest, -, -, hfirst, -⟩ := first_regexBody body
    exact ⟨_, congrArg _ (closerIn_regex hfirst)⟩

/-- A line ends in plain script, in a block comment or in a string, and in a string in quotes only
behind a backslash that nothing escapes; a line comment and a regular expression always end. -/
theorem line_leaves_open (level base : Level) (text : Text) (state : LineState) :
    (∀ engine ∈ [ecmaScript level, actionScriptOn base],
      (engine.highlightLine text state).state.construct ∈ [0, 1, 3, 4, 5] ∧
      ((engine.highlightLine text state).state.construct = 3 ∨
          (engine.highlightLine text state).state.construct = 4 → text.EndsInOddRun '\\') ∧
      ∀ id ∈ [3, 4], (engine.highlightLine [] ⟨id⟩).state = .normal) ∧
    ∀ construct ∈ [lineComment, regexLiteral], ∀ pos, text.IsBoundary pos →
      ∃ stop, construct.findCloser text pos = some stop := by
  constructor
  · intro engine hengine
    rw [state_highlightLine hengine]
    refine ⟨Mode.final_mem _, endsInOddRun_of_state, fun id hid => ?_⟩
    rw [state_highlightLine hengine]
    simp only [List.mem_cons, List.not_mem_nil, or_false] at hid
    rcases hid with rfl | rfl <;> rfl
  · rintro construct hconstruct pos ⟨pre, body, rfl, rfl⟩
    exact exists_findCloser construct hconstruct pre body

/-- A string goes on behind three backslashes, and an empty line closes it. -/
theorem line_leaves_open_string :
    ((ecmaScript .one).highlightLine "x = \"a\\\\\\".toList .normal).state.construct = 3 ∧
    Text.EndsInOddRun '\\' "x = \"a\\\\\\".toList ∧
    ((ecmaScript .one).highlightLine [] ⟨3⟩).state = .normal ∧
    ∃ stop, regexLiteral.findCloser "x = \"a\\\\\\".toList 5 = some stop := by
  obtain ⟨hengines, hclosers⟩ := line_leaves_open .one .one "x = \"a\\\\\\".toList .normal
  obtain ⟨-, hrun, hempty⟩ := hengines (ecmaScript .one) (by simp)
  have hopen :
      ((ecmaScript .one).highlightLine "x = \"a\\\\\\".toList .normal).state.construct = 3 := by
    decide +kernel
  exact ⟨hopen, hrun (.inl hopen), hempty 3 (by simp),
    hclosers regexLiteral (by simp) 5 (by decide +kernel)⟩

end Script

end Highlighter
