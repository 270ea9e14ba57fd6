import Highlighter.Proofs.Registry.Cache

/-!
Modes that take the place of others. The lines that a buffer keeps stay as the replaced mode has
highlighted them; only the lines behind them, and buffers that keep none, show the new mode.
-/
namespace Highlighter

namespace Buffer

/-- A buffer of which at most the last lines have been dropped. -/
structure Remains (buffer old : Buffer) : Prop where
  mode : buffer.mode = old.mode
  spans : buffer.spans <+: old.spans
  states : buffer.states <+: old.states

namespace Remains

variable {buffer old : Buffer}

theorem refl (buffer : Buffer) : buffer.Remains buffer :=
  ⟨rfl, List.prefix_refl _, List.prefix_refl _⟩

theorem invalidateFrom (h : buffer.Remains old) (line : Nat) :
    (buffer.invalidateFrom line).Remains old where
  mode := h.mode
  spans := (List.take_prefix _ _).trans h.spans
  states := (List.take_prefix _ _).trans h.states

theorem validLines_le (h : buffer.Remains old) : buffer.validLines ≤ old.validLines :=
  h.spans.length_le

end Remains

/-- The kept lines and those behind them show what highlighting all lines from the start shows. -/
def Agrees (kept : Buffer) (engine : Engine) (lines : List Text) : Prop :=
  kept.spans = (engine.highlightLines (lines.take kept.validLines)).map HighlightedLine.spans ∧
    (engine.highlightFrom kept.lastState (lines.drop kept.validLines)).map HighlightedLine.spans =
      (engine.highlightFrom (engine.stateAfter .normal (lines.take kept.validLines))
        (lines.drop kept.validLines)).map HighlightedLine.spans

theorem spans_highlight (buffer : Buffer) (engine : Engine) (lines : List Text) :
    (buffer.highlight engine lines).spans =
      (buffer.invalidateFrom lines.length).spans ++
        (engine.highlightFrom (buffer.invalidateFrom lines.length).lastState
          (lines.drop (buffer.invalidateFrom lines.length).validLines)).map HighlightedLine.spans := rfl

theorem spans_highlightLines_split (engine : Engine) (lines : List Text) (k : Nat) :
    (engine.highlightLines lines).map HighlightedLine.spans =
      (engine.highlightLines (lines.take k)).map HighlightedLine.spans ++
        (engine.highlightFrom (engine.stateAfter .normal (lines.take k)) (lines.drop k)).map
          HighlightedLine.spans := by
  rw [← List.map_append, Engine.highlightLines, Engine.highlightLines, ← Engine.highlightFrom_append,
    List.take_append_drop]

theorem spans_highlight_eq_iff {buffer : Buffer} {engine : Engine} {lines : List Text} :
    (buffer.highlight engine lines).spans = (engine.highlightLines lines).map HighlightedLine.spans ↔
      (buffer.invalidateFrom lines.length).Agrees engine lines := by
  have hvalid : (buffer.invalidateFrom lines.length).validLines ≤ lines.length :=
    List.length_take_le lines.length buffer.spans
  rw [spans_highlight, spans_highlightLines_split engine lines
    (buffer.invalidateFrom lines.length).validLines]
  constructor
  · intro h
    refine List.append_inj h ?_
    rw [List.length_map, Engine.highlightLines, Engine.length_highlightFrom, List.length_take,
      Nat.min_eq_left hvalid]
    rfl
  · rintro ⟨hkept, hadded⟩
    rw [← hkept, hadded]

theorem agrees_of_validLines_eq_zero {kept : Buffer} (h : kept.validLines = 0) (engine : Engine)
    (lines : List Text) : kept.Agrees engine lines := by
  have hspans : kept.spans = [] := List.length_eq_zero_iff.1 h
  have hstate : kept.lastState = .normal := by
    rw [lastState, h]
  constructor
  · rw [h, hspans]
    rfl
  · rw [h, hstate]
    rfl

end Buffer

namespace Registry

/-- The operation leaves a buffer in its mode, of the given name, and the highlighter of this mode in
force, and it does not highlight the buffer. -/
def Spares (registry : Registry) (number : Nat) (name : String) : Operation → Prop
  | .register mode => mode.name ≠ name
  | .setModeOfFile n _ | .setModeByName n _ | .setMode n _ | .remove n => n ≠ number
  | .highlight n _ => n ≠ number ∨ registry.enabled = false
  | .applySettings _ | .setEnabled _ | .invalidateFrom _ _ => True

/-- Registries that come about from a given one by operations that spare a buffer and its mode. -/
inductive Spared (number : Nat) (name : String) (registry : Registry) : Registry → Prop
  | refl : Spared number name registry registry
  | perform {later : Registry} (h : Spared number name registry later) (op : Operation)
      (hop : later.Spares number name op) : Spared number name registry (later.perform op)

/-- A buffer waits to be highlighted by a highlighter; at most its last lines have been dropped. -/
structure Awaits (registry : Registry) (number : Nat) (name : String) (engine : Engine)
    (old : Buffer) : Prop where
  named : registry.Named
  engine_eq : (registry.get? name).map Mode.engine = some engine
  remains : (registry.buffer number).Remains old

namespace Awaits

variable {registry : Registry} {number : Nat} {name : String} {engine : Engine} {old : Buffer}

theorem setBuffer (h : registry.Awaits number name engine old) {n : Nat} {buffer : Buffer}
    (hbuffer : n = number → buffer.Remains old) :
    (registry.setBuffer n buffer).Awaits number name engine old where
  named := h.named
  engine_eq := h.engine_eq
  remains := by
    rw [buffer_setBuffer]
    split
    · rename_i heq
      exact hbuffer heq
    · exact h.remains

theorem setMode (h : registry.Awaits number name engine old) {n : Nat} (hn : n ≠ number)
    (mode : Option String) : (registry.setMode n mode).Awaits number name engine old :=
  h.setBuffer fun heq => absurd heq hn

theorem perform (h : registry.Awaits number name engine old) (op : Operation)
    (hop : registry.Spares number name op) :
    (registry.perform op).Awaits number name engine old := by
  cases op with
  | register mode =>
      have hget : (registry.register mode).get? name = registry.get? name := by
        rw [get?_register, if_neg hop]
      exact ⟨h.named.register mode, by rw [Registry.perform, hget, h.engine_eq], h.remains⟩
  | applySettings settings =>
      obtain ⟨hnamed, hsame⟩ := h.named.applySettings settings
      refine ⟨hnamed, (hsame name).trans h.engine_eq, ?_⟩
      rw [Registry.perform, buffer_applySettings]
      exact h.remains
  | setEnabled enabled => exact ⟨h.named, h.engine_eq, h.remains⟩
  | setModeOfFile n file => exact h.setMode hop _
  | setModeByName n name' =>
      rw [perform_setModeByName]
      split
      · exact h.setMode hop _
      · exact h
  | setMode n mode => exact h.setMode hop mode
  | invalidateFrom n line =>
      refine ⟨h.named.perform _, ?_, ?_⟩
      · rw [get?_perform rfl]
        exact h.engine_eq
      · rw [Registry.perform, buffer_invalidateFrom]
        split
        · rename_i heq
          exact (heq ▸ h.remains).invalidateFrom line
        · exact h.remains
  | remove n =>
      refine ⟨h.named, h.engine_eq, ?_⟩
      rw [Registry.perform, buffer_removeBuffer, if_neg hop]
      exact h.remains
  | highlight n lines =>
      cases hactive : registry.activeMode? n with
      | none =>
          rw [Registry.perform, highlightLines_of_none hactive]
          refine h.setBuffer ?_
          rintro rfl
          exact h.remains
      | some mode =>
          -- the registry is switched on, so the call is for another buffer
          have hon : registry.enabled = true := (activeMode?_eq_some_iff.1 hactive).1
          have hn : n ≠ number := hop.resolve_right (by simp [hon])
          rw [Registry.perform, highlightLines_of_some hactive]
          exact h.setBuffer fun heq => absurd heq hn

theorem spared {later : Registry} (h : registry.Awaits number name engine old)
    (hspared : Spared number name registry later) : later.Awaits number name engine old := by
  induction hspared with
  | refl => exact h
  | perform _ op hop ih => exact ih.perform op hop

end Awaits

theorem awaits_register {registry : Registry} (h : registry.Named) {number : Nat} {mode : Mode} :
    (registry.register mode).Awaits number mode.name mode.engine (registry.buffer number) where
  named := h.register mode
  engine_eq := by simp
  remains := .refl _

/-- After a mode has taken the place of another one, the next call for the lines of a buffer in this
mode shows the lines that the buffer has kept all along, and behind them what the new mode makes of the
others. This is what the new mode makes of all lines just where the kept ones agree with it, and so for
a buffer that keeps none. -/
theorem register_takes_effect (registry later : Registry) (number : Nat) (mode : Mode)
    (lines : List Text) (hreachable : registry.Reachable)
    (hmode : (registry.buffer number).mode = some mode.name)
    (hspared : Spared number mode.name (registry.register mode) later) (hon : later.enabled = true) :
    (later.highlightLines number lines).2 =
        ((later.buffer number).invalidateFrom lines.length).spans ++
          (mode.engine.highlightFrom ((later.buffer number).invalidateFrom lines.length).lastState
            (lines.drop ((later.buffer number).invalidateFrom lines.length).validLines)).map
              HighlightedLine.spans ∧
    (later.buffer number).spans <+: (registry.buffer number).spans ∧
    ((later.highlightLines number lines).2 =
        (mode.engine.highlightLines lines).map HighlightedLine.spans ↔
      ((later.buffer number).invalidateFrom lines.length).Agrees mode.engine lines) ∧
    ((registry.buffer number).validLines = 0 ∨ (later.buffer number).validLines = 0 →
      (later.highlightLines number lines).2 =
        (mode.engine.highlightLines lines).map HighlightedLine.spans) := by
  have hlater := (awaits_register hreachable.named).spared hspared
  have hname : (later.buffer number).mode = some mode.name := hlater.remains.mode.trans hmode
  obtain ⟨mode', hget, hengine⟩ := Option.map_eq_some_iff.1 hlater.engine_eq
  have hactive := activeMode?_eq_some_iff.2 ⟨hon, mode.name, hname, hget⟩
  rw [highlightLines_of_some hactive, hengine]
  refine ⟨Buffer.spans_highlight .., hlater.remains.spans, Buffer.spans_highlight_eq_iff, fun hnone => ?_⟩
  have hempty : (later.buffer number).validLines = 0 := by
    have := hlater.remains.validLines_le
    omega
  refine Buffer.spans_highlight_eq_iff.2 (Buffer.agrees_of_validLines_eq_zero ?_ ..)
  rw [Buffer.validLines, Buffer.invalidateFrom, List.length_take]
  exact Nat.le_zero.1 (Nat.le_trans (Nat.min_le_right ..) (Nat.le_of_eq hempty))

/-- A buffer shows the new mode after its lines have been dropped, and not before that: a call made
with highlighting off drops none. -/
theorem register_takes_effect_dropped :
    ∃ (registry : Registry) (mode : Mode), registry.Reachable ∧
      (registry.buffer 0).mode = some mode.name ∧ (registry.buffer 0).validLines = 2 ∧
      (let off := ((registry.register mode).perform (.setEnabled false)).perform
          (.highlight 0 ["x".toList])
        let later := (off.perform (.setEnabled true)).perform (.invalidateFrom 0 0)
        later.enabled = true ∧
          (later.highlightLines 0 ["var".toList, "/*".toList]).2 = [[], []]) := by
  have hreachable := (builtin_reachable.perform (.setMode 0 (some "ecmascript"))).perform
    (.highlight 0 ["var".toList, "/*".toList])
  refine ⟨_, { name := "ecmascript", label := "Plain", engine := { name := "plain" } }, hreachable, rfl,
    by decide +kernel, by decide +kernel, ?_⟩
  have heffect := register_takes_effect _ _ 0
    { name := "ecmascript", label := "Plain", engine := { name := "plain" } }
    ["var".toList, "/*".toList] hreachable rfl
    ((((Spared.refl.perform (.setEnabled false) trivial).perform (.highlight 0 ["x".toList])
      (.inr rfl)).perform (.setEnabled true) trivial).perform (.invalidateFrom 0 0) trivial)
    (by decide +kernel)
  rw [heffect.2.2.2 (.inr (by decide +kernel))]
  decide +kernel

/-- A buffer that keeps a line goes on showing it as the replaced mode did. -/
theorem replaced_mode_shown :
    ∃ (registry : Registry) (mode : Mode), registry.Reachable ∧
      (registry.buffer 0).mode = some mode.name ∧ (registry.register mode).enabled = true ∧
      ((registry.register mode).highlightLines 0 ["var".toList]).2 = [[⟨0, 3, .keyword⟩]] ∧
      (mode.engine.highlightLines ["var".toList]).map HighlightedLine.spans = [[]] := by
  have hreachable := (builtin_reachable.perform (.setMode 0 (some "ecmascript"))).perform
    (.highlight 0 ["var".toList])
  exact ⟨_, { name := "ecmascript", label := "Plain", engine := { name := "plain" } }, hreachable,
    by decide +kernel⟩

end Registry

end Highlighter
