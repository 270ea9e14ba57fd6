import Highlighter.Proofs.Registry.Operation

/-!
The lines that buffers keep. As long as no mode is replaced under kept lines, and the texts of kept
lines stay the same, a buffer shows what highlighting all of its lines from the start would show.
-/
namespace Highlighter

/-! ## Lines one after the other -/

namespace Engine

variable (engine : Engine) (state : LineState)

/-- The state after lines that follow a line that ended in `state`. -/
def stateAfter (state : LineState) : List Text → LineState
  | [] => state
  | text :: texts => stateAfter (engine.highlightLine text state).state texts

@[simp] theorem length_highlightFrom (texts : List Text) :
    (engine.highlightFrom state texts).length = texts.length := by
  induction texts generalizing state with
  | nil => rfl
  | cons text texts ih => simp [highlightFrom, ih]

theorem highlightFrom_append (a b : List Text) :
    engine.highlightFrom state (a ++ b) =
      engine.highlightFrom state a ++ engine.highlightFrom (engine.stateAfter state a) b := by
  induction a generalizing state with
  | nil => rfl
  | cons text a ih => simp [highlightFrom, stateAfter, ih]

theorem take_highlightFrom (n : Nat) (texts : List Text) :
    (engine.highlightFrom state texts).take n = engine.highlightFrom state (texts.take n) := by
  induction texts generalizing state n with
  | nil => simp [highlightFrom]
  | cons text texts ih =>
      cases n with
      | zero => rfl
      | succ n => simp [highlightFrom, ih]

theorem state_getElem?_highlightFrom (text : Text) (texts : List Text) :
    ((engine.highlightFrom state (text :: texts)).map HighlightedLine.state)[texts.length]? =
      some (engine.stateAfter state (text :: texts)) := by
  induction texts generalizing text state with
  | nil => rfl
  | cons text' texts ih => exact ih (engine.highlightLine text state).state text'

end Engine

/-! ## Buffers -/

namespace Buffer

/-- The kept lines are those of a script, highlighted from the start. -/
def Shows (buffer : Buffer) (engine : Engine) (texts : List Text) : Prop :=
  buffer.spans = (engine.highlightLines texts).map HighlightedLine.spans ∧
    buffer.states = (engine.highlightLines texts).map HighlightedLine.state

variable {buffer : Buffer} {engine : Engine} {texts lines : List Text}

theorem Shows.validLines_eq (h : buffer.Shows engine texts) : buffer.validLines = texts.length := by
  simp [validLines, h.1, Engine.highlightLines]

theorem Shows.invalidateFrom (h : buffer.Shows engine texts) (line : Nat) :
    (buffer.invalidateFrom line).Shows engine (texts.take line) := by
  simp only [Shows, Buffer.invalidateFrom, h.1, h.2, ← List.map_take, Engine.highlightLines,
    Engine.take_highlightFrom, and_self]

theorem Shows.lastState_eq (h : buffer.Shows engine texts) :
    buffer.lastState = engine.stateAfter .normal texts := by
  rw [lastState, h.validLines_eq]
  cases texts with
  | nil => rfl
  | cons text texts =>
      rw [List.length_cons]
      simp only [h.2, Engine.highlightLines, Engine.state_getElem?_highlightFrom, Option.getD_some]

theorem Shows.highlight (h : buffer.Shows engine texts)
    (hcovered : texts.take (min buffer.validLines lines.length) =
      lines.take (min buffer.validLines lines.length)) :
    (buffer.highlight engine lines).Shows engine lines := by
  have hkept := h.invalidateFrom lines.length
  have hlength := hkept.validLines_eq
  have htake : texts.take lines.length =
      lines.take (buffer.invalidateFrom lines.length).validLines := by
    rw [hlength, List.length_take, ← h.validLines_eq, Nat.min_comm, ← hcovered, h.validLines_eq]
    simp [List.take_eq_take_iff, Nat.min_comm]
  have hlines : engine.highlightLines lines =
      engine.highlightLines (texts.take lines.length) ++
        engine.highlightFrom (buffer.invalidateFrom lines.length).lastState
          (lines.drop (buffer.invalidateFrom lines.length).validLines) := by
    rw [hkept.lastState_eq, htake]
    simp only [Engine.highlightLines]
    rw [← Engine.highlightFrom_append, List.take_append_drop]
  constructor
  · rw [hlines, List.map_append, ← hkept.1]
    rfl
  · rw [hlines, List.map_append, ← hkept.2]
    rfl

/-- As many states are kept as lines. -/
def InStep (buffer : Buffer) : Prop := buffer.states.length = buffer.spans.length

/-- The lines that are kept are among the given ones, and the last one has a state. -/
def InBounds (buffer : Buffer) (lines : List Text) : Prop :=
  buffer.validLines ≤ lines.length ∧
    (0 < buffer.validLines → buffer.validLines - 1 < buffer.states.length)

theorem InStep.setMode (buffer : Buffer) (mode : Option String) : (buffer.setMode mode).InStep := rfl

theorem InStep.invalidateFrom (h : buffer.InStep) (line : Nat) :
    (buffer.invalidateFrom line).InStep := by
  have hlength : buffer.states.length = buffer.spans.length := h
  simp [InStep, Buffer.invalidateFrom, hlength]

theorem InStep.highlight (h : buffer.InStep) (engine : Engine) (lines : List Text) :
    (buffer.highlight engine lines).InStep := by
  have hkept : (buffer.invalidateFrom lines.length).InStep := h.invalidateFrom lines.length
  simp only [InStep, Buffer.highlight, List.length_append, List.length_map] at hkept ⊢
  rw [hkept]

theorem InStep.inBounds (h : buffer.InStep) (lines : List Text) :
    (buffer.invalidateFrom lines.length).InBounds lines := by
  have hkept : (buffer.invalidateFrom lines.length).states.length =
      (buffer.invalidateFrom lines.length).validLines := h.invalidateFrom lines.length
  refine ⟨?_, fun hpos => ?_⟩
  · exact List.length_take_le lines.length buffer.spans
  · omega

end Buffer

namespace Registry

theorem inStep_setBuffer {registry : Registry} (h : ∀ number, (registry.buffer number).InStep)
    (number : Nat) {buffer : Buffer} (hbuffer : buffer.InStep) (number' : Nat) :
    ((registry.setBuffer number buffer).buffer number').InStep := by
  rw [buffer_setBuffer]
  split
  · exact hbuffer
  · exact h number'

theorem inStep_highlightLines {registry : Registry} (h : ∀ number, (registry.buffer number).InStep)
    (number : Nat) (lines : List Text) (number' : Nat) :
    ((registry.highlightLines number lines).1.buffer number').InStep := by
  cases hmode : registry.activeMode? number with
  | none =>
      rw [highlightLines_of_none hmode]
      exact inStep_setBuffer h number (h number) number'
  | some mode =>
      rw [highlightLines_of_some hmode]
      exact inStep_setBuffer h number ((h number).highlight mode.engine lines) number'

theorem inStep_perform {registry : Registry} (h : ∀ number, (registry.buffer number).InStep)
    (op : Operation) (number : Nat) : ((registry.perform op).buffer number).InStep := by
  cases op with
  | register mode => exact h number
  | applySettings settings =>
      rw [perform, buffer_applySettings]
      exact h number
  | setEnabled enabled => exact h number
  | setModeOfFile n file => exact inStep_setBuffer h n (.setMode ..) number
  | setModeByName n name =>
      rw [perform_setModeByName]
      split
      · exact inStep_setBuffer h n (.setMode ..) number
      · exact h number
  | setMode n mode => exact inStep_setBuffer h n (.setMode ..) number
  | invalidateFrom n line =>
      rw [perform, buffer_invalidateFrom]
      split
      · exact (h n).invalidateFrom line
      · exact h number
  | remove n =>
      rw [perform, buffer_removeBuffer]
      split
      · rfl
      · exact h number
  | highlight n lines => exact inStep_highlightLines h n lines number

theorem Reachable.inStep {registry : Registry} (h : registry.Reachable) (number : Nat) :
    (registry.buffer number).InStep := by
  induction h generalizing number with
  | empty => rfl
  | perform _ op ih => exact inStep_perform ih op number

end Registry

/-! ## Kept lines and registries -/

/-- What is kept for a buffer is right: it is nothing, or its mode's highlighting of the texts. -/
inductive Kept (registry : Registry) (buffer : Buffer) (texts : List Text) : Prop
  | nothing (hspans : buffer.spans = []) (hstates : buffer.states = []) (htexts : texts = [])
  | lines (engine : Engine)
      (hengine : (buffer.mode.bind registry.get?).map Mode.engine = some engine)
      (hshows : buffer.Shows engine texts)

namespace Kept

variable {registry registry' : Registry} {buffer : Buffer} {texts : List Text} {mode : Mode}

theorem shows (h : Kept registry buffer texts) (hmode : buffer.mode.bind registry.get? = some mode) :
    buffer.Shows mode.engine texts := by
  cases h with
  | nothing hspans hstates htexts =>
      rw [htexts]
      exact ⟨hspans, hstates⟩
  | lines engine hengine hshows =>
      obtain rfl : mode.engine = engine := by simpa [hmode] using hengine
      exact hshows

theorem setMode (registry : Registry) (buffer : Buffer) (mode : Option String) :
    Kept registry (buffer.setMode mode) [] :=
  .nothing rfl rfl rfl

theorem invalidateFrom (h : Kept registry buffer texts) (line : Nat) :
    Kept registry (buffer.invalidateFrom line) (texts.take line) := by
  cases h with
  | nothing hspans hstates htexts =>
      exact .nothing (by simp [Buffer.invalidateFrom, hspans])
        (by simp [Buffer.invalidateFrom, hstates]) (by simp [htexts])
  | lines engine hengine hshows => exact .lines engine hengine (hshows.invalidateFrom line)

theorem congr (h : Kept registry buffer texts)
    (hmode : buffer.validLines ≠ 0 → ∀ engine,
      (buffer.mode.bind registry.get?).map Mode.engine = some engine →
      (buffer.mode.bind registry'.get?).map Mode.engine = some engine) :
    Kept registry' buffer texts := by
  cases h with
  | nothing hspans hstates htexts => exact .nothing hspans hstates htexts
  | lines engine hengine hshows =>
      by_cases hvalid : buffer.validLines = 0
      · have htexts : texts = [] := by
          rw [hshows.validLines_eq] at hvalid
          exact List.length_eq_zero_iff.1 hvalid
        subst htexts
        exact .nothing hshows.1 hshows.2 rfl
      · exact .lines engine (hmode hvalid engine hengine) hshows

theorem of_sameEngines (h : Kept registry buffer texts) (hsame : registry.SameEngines registry') :
    Kept registry' buffer texts := by
  refine h.congr fun _ engine hengine => ?_
  cases hmode : buffer.mode with
  | none => simp [hmode] at hengine
  | some name =>
      rw [hmode] at hengine
      exact (hsame name).trans hengine

end Kept

/-! ## Runs -/

/-- A registry, and the texts from which the kept lines of each buffer were highlighted. -/
structure Traced where
  registry : Registry := {}
  sources : Nat → List Text := fun _ => []

namespace Traced

/-- The number of lines that are taken over when lines are highlighted. -/
def covered (t : Traced) (number : Nat) (lines : List Text) : Nat :=
  min (t.registry.buffer number).validLines lines.length

/-- The texts of the kept lines of a buffer after an operation. -/
def sourcesAfter (t : Traced) (op : Operation) (number : Nat) : List Text :=
  match op with
  | .setModeOfFile n _ | .setMode n _ | .remove n => if n = number then [] else t.sources number
  | .setModeByName n name =>
    if n = number ∧ (t.registry.get? name).isSome then [] else t.sources number
  | .invalidateFrom n line =>
    if n = number then (t.sources number).take line else t.sources number
  | .highlight n lines =>
    if n = number ∧ (t.registry.activeMode? n).isSome then
      (t.sources number).take (t.covered n lines) ++ lines.drop (t.covered n lines)
    else t.sources number
  | .register _ | .applySettings _ | .setEnabled _ => t.sources number

def perform (t : Traced) (op : Operation) : Traced :=
  ⟨t.registry.perform op, t.sourcesAfter op⟩

/-- A mode is not replaced under kept lines, and lines that are taken over have kept their texts. -/
def Allows (t : Traced) : Operation → Prop
  | .register mode => (t.registry.get? mode.name).isSome → ∀ number,
    (t.registry.buffer number).mode = some mode.name → (t.registry.buffer number).validLines = 0
  | .highlight number lines =>
    (t.sources number).take (t.covered number lines) = lines.take (t.covered number lines)
  | _ => True

/-- What comes about by operations that are allowed, beginning with an empty registry. -/
inductive Reachable : Traced → Prop
  | empty : Reachable {}
  | perform {t : Traced} (h : Reachable t) (op : Operation) (hop : t.Allows op) :
      Reachable (t.perform op)

/-- The modes are known by their names, and what is kept for every buffer is right. -/
structure Coherent (t : Traced) : Prop where
  named : t.registry.Named
  kept : ∀ number, Kept t.registry (t.registry.buffer number) (t.sources number)

namespace Coherent

variable {t : Traced}

theorem register (h : t.Coherent) {mode : Mode} (hop : t.Allows (.register mode)) :
    (t.perform (.register mode)).Coherent where
  named := h.named.register mode
  kept number := by
    refine (h.kept number).congr fun hvalid engine hengine => ?_
    cases hmode : (t.registry.buffer number).mode with
    | none => simp [hmode] at hengine
    | some name =>
        rw [hmode] at hengine
        by_cases hname : mode.name = name
        · subst hname
          -- the mode under kept lines is replaced, which is not allowed
          have hsome : (t.registry.get? mode.name).isSome := by
            cases hget : t.registry.get? mode.name with
            | none => simp [hget] at hengine
            | some _ => rfl
          exact absurd (hop hsome number hmode) hvalid
        · simpa [perform, Registry.perform, hname] using hengine

theorem applySettings (h : t.Coherent) (settings : Settings) :
    (t.perform (.applySettings settings)).Coherent := by
  obtain ⟨hnamed, hsame⟩ := h.named.applySettings settings
  refine ⟨hnamed, fun number => ?_⟩
  have hkept := (h.kept number).of_sameEngines hsame
  simpa [perform, Registry.perform, sourcesAfter] using hkept

theorem setBuffer (h : t.Coherent) {number : Nat} {buffer : Buffer} {sources : Nat → List Text}
    (hkept : Kept t.registry buffer (sources number))
    (hsources : ∀ n, number ≠ n → sources n = t.sources n) :
    Coherent ⟨t.registry.setBuffer number buffer, sources⟩ where
  named := h.named
  kept n := by
    by_cases hn : number = n
    · subst hn
      have hself : Kept (t.registry.setBuffer number buffer) buffer (sources number) :=
        hkept.of_sameEngines fun _ => rfl
      simpa using hself
    · have hother : Kept (t.registry.setBuffer number buffer) (t.registry.buffer n) (t.sources n) :=
        (h.kept n).of_sameEngines fun _ => rfl
      simpa [hn, hsources n hn] using hother

theorem setMode (h : t.Coherent) (number : Nat) (mode : Option String) :
    (t.perform (.setMode number mode)).Coherent := by
  refine h.setBuffer ?_ fun n hn => by simp [sourcesAfter, hn]
  simpa [sourcesAfter] using Kept.setMode t.registry (t.registry.buffer number) mode

theorem setModeByName (h : t.Coherent) (number : Nat) (name : String) :
    (t.perform (.setModeByName number name)).Coherent := by
  cases hget : t.registry.get? name with
  | none =>
      have hsources : t.sourcesAfter (.setModeByName number name) = t.sources := by
        funext n
        simp [sourcesAfter, hget]
      have hsame : t.perform (.setModeByName number name) = t := by
        simp [perform, Registry.perform, Registry.setModeByName, hsources, hget]
      rw [hsame]
      exact h
  | some mode =>
      have hsources : t.sourcesAfter (.setModeByName number name) =
          t.sourcesAfter (.setMode number (some name)) := by
        funext n
        simp [sourcesAfter, hget]
      have hset : t.perform (.setModeByName number name) =
          t.perform (.setMode number (some name)) := by
        simp [perform, Registry.perform, Registry.setModeByName, hsources, hget]
      rw [hset]
      exact h.setMode number (some name)

theorem invalidateFrom (h : t.Coherent) (number line : Nat) :
    (t.perform (.invalidateFrom number line)).Coherent where
  named := h.named.perform (.invalidateFrom number line)
  kept n := by
    have hsame : t.registry.SameEngines (t.registry.perform (.invalidateFrom number line)) :=
      fun name => by rw [Registry.get?_perform rfl]
    refine Kept.of_sameEngines ?_ hsame
    by_cases hn : number = n
    · subst hn
      simpa [perform, Registry.perform, sourcesAfter] using (h.kept number).invalidateFrom line
    · simpa [perform, Registry.perform, sourcesAfter, hn] using h.kept n

theorem remove (h : t.Coherent) (number : Nat) : (t.perform (.remove number)).Coherent where
  named := h.named
  kept n := by
    by_cases hn : number = n
    · have hnone : Kept (t.registry.removeBuffer number) {} [] := .nothing rfl rfl rfl
      simpa [perform, Registry.perform, sourcesAfter, hn] using hnone
    · have hother : Kept (t.registry.removeBuffer number) (t.registry.buffer n) (t.sources n) :=
        (h.kept n).of_sameEngines fun _ => rfl
      simpa [perform, Registry.perform, sourcesAfter, hn] using hother

theorem shows_highlight (h : t.Coherent) {number : Nat} {lines : List Text} {mode : Mode}
    (hop : t.Allows (.highlight number lines)) (hmode : t.registry.activeMode? number = some mode) :
    ((t.registry.buffer number).highlight mode.engine lines).Shows mode.engine lines := by
  obtain ⟨_, name, hname, hget⟩ := Registry.activeMode?_eq_some_iff.1 hmode
  have hshows := (h.kept number).shows (show _ = some mode by rw [hname]; exact hget)
  exact hshows.highlight hop

theorem highlight (h : t.Coherent) {number : Nat} {lines : List Text}
    (hop : t.Allows (.highlight number lines)) : (t.perform (.highlight number lines)).Coherent := by
  cases hmode : t.registry.activeMode? number with
  | none =>
      have hsources : t.sourcesAfter (.highlight number lines) = t.sources := by
        funext n
        simp [sourcesAfter, hmode]
      have hbuffer := h.setBuffer (h.kept number) fun _ _ => rfl
      simpa [perform, Registry.perform, Registry.highlightLines_of_none hmode, hsources] using hbuffer
  | some mode =>
      obtain ⟨_, name, hname, hget⟩ := Registry.activeMode?_eq_some_iff.1 hmode
      have hsources : t.sourcesAfter (.highlight number lines) number = lines := by
        have htexts : (t.sources number).take (t.covered number lines) =
            lines.take (t.covered number lines) := hop
        simp [sourcesAfter, hmode, htexts]
      have hkept : Kept t.registry ((t.registry.buffer number).highlight mode.engine lines)
          (t.sourcesAfter (.highlight number lines) number) := by
        rw [hsources]
        refine .lines mode.engine ?_ (h.shows_highlight hop hmode)
        simp [Buffer.highlight, Buffer.invalidateFrom, hname, hget]
      have hbuffer := h.setBuffer hkept fun n hn => by simp [sourcesAfter, hn]
      simpa [perform, Registry.perform, Registry.highlightLines_of_some hmode] using hbuffer

theorem perform (h : t.Coherent) (op : Operation) (hop : t.Allows op) : (t.perform op).Coherent := by
  cases op with
  | register mode => exact h.register hop
  | applySettings settings => exact h.applySettings settings
  | setEnabled enabled => exact ⟨h.named, fun n => (h.kept n).of_sameEngines fun _ => rfl⟩
  | setModeOfFile number file => exact h.setMode number (file.bind t.registry.detect?)
  | setModeByName number name => exact h.setModeByName number name
  | setMode number mode => exact h.setMode number mode
  | invalidateFrom number line => exact h.invalidateFrom number line
  | remove number => exact h.remove number
  | highlight number lines => exact h.highlight hop

end Coherent

theorem Reachable.registry {t : Traced} (h : t.Reachable) : t.registry.Reachable := by
  induction h with
  | empty => exact .empty
  | perform _ op _ ih => exact ih.perform op

theorem Reachable.coherent {t : Traced} (h : t.Reachable) : t.Coherent := by
  induction h with
  | empty =>
      have hget : ∀ name, ({} : Registry).get? name = none := fun _ => rfl
      exact ⟨fun name mode h => by simp [hget] at h, fun _ => .nothing rfl rfl rfl⟩
  | perform _ op hop ih => exact ih.perform op hop

section

variable {t : Traced} {number : Nat}

/-- A buffer in a mode that counts shows what highlighting all of its lines from the start shows. -/
theorem Coherent.highlightLines_active (h : t.Coherent) {lines : List Text} {mode : Mode}
    (hop : t.Allows (.highlight number lines)) (hmode : t.registry.activeMode? number = some mode) :
    (t.registry.highlightLines number lines).2 =
        (mode.engine.highlightLines lines).map HighlightedLine.spans ∧
      ((t.registry.highlightLines number lines).1.buffer number).Shows mode.engine lines := by
  have hshows := h.shows_highlight hop hmode
  rw [Registry.highlightLines_of_some hmode]
  refine ⟨hshows.1, ?_⟩
  simpa using hshows

theorem Coherent.length_highlightLines (h : t.Coherent) {lines : List Text}
    (hop : t.Allows (.highlight number lines)) :
    (t.registry.highlightLines number lines).2.length = lines.length := by
  cases hmode : t.registry.activeMode? number with
  | none => simp [Registry.highlightLines_of_none hmode]
  | some mode =>
      rw [(h.highlightLines_active hop hmode).1]
      simp [Engine.highlightLines]

end

/-- Highlighting a buffer comes to what its mode makes of all of its lines from the start; without a
mode that counts it comes to nothing. Whatever was done before, nothing is looked up in vain. -/
theorem highlightLines_from_scratch :
    (∀ (t : Traced) (number : Nat) (lines : List Text), t.Reachable →
      t.Allows (.highlight number lines) →
      (t.registry.highlightLines number lines).2.length = lines.length ∧
      (∀ name mode, t.registry.enabled = true → (t.registry.buffer number).mode = some name →
        t.registry.get? name = some mode →
        (t.registry.highlightLines number lines).2 =
            (mode.engine.highlightLines lines).map HighlightedLine.spans ∧
          ((t.registry.highlightLines number lines).1.buffer number).validLines = lines.length ∧
          ((t.registry.highlightLines number lines).1.buffer number).states =
            (mode.engine.highlightLines lines).map HighlightedLine.state) ∧
      ((¬ ∃ name mode, t.registry.enabled = true ∧ (t.registry.buffer number).mode = some name ∧
          t.registry.get? name = some mode) →
        (t.registry.highlightLines number lines).2 = lines.map (fun _ => []) ∧
          ∀ n, ((t.registry.highlightLines number lines).1.buffer n).spans =
              (t.registry.buffer n).spans ∧
            ((t.registry.highlightLines number lines).1.buffer n).states =
              (t.registry.buffer n).states)) ∧
    ∀ (registry : Registry) (number : Nat), registry.Reachable →
      (registry.buffer number).states.length = (registry.buffer number).spans.length ∧
        ∀ lines : List Text, ((registry.buffer number).invalidateFrom lines.length).InBounds lines := by
  refine ⟨fun t number lines h hop => ⟨h.coherent.length_highlightLines hop, ?_, ?_⟩,
    fun registry number h => ⟨h.inStep number, (h.inStep number).inBounds⟩⟩
  · intro name mode henabled hname hget
    obtain ⟨hspans, hshows⟩ := h.coherent.highlightLines_active hop
      (Registry.activeMode?_eq_some_iff.2 ⟨henabled, name, hname, hget⟩)
    exact ⟨hspans, hshows.validLines_eq, hshows.2⟩
  · intro hinactive
    have hmode : t.registry.activeMode? number = none := by
      cases hmode : t.registry.activeMode? number with
      | none => rfl
      | some mode =>
          obtain ⟨henabled, name, hname, hget⟩ := Registry.activeMode?_eq_some_iff.1 hmode
          exact absurd ⟨name, mode, henabled, hname, hget⟩ hinactive
    rw [Registry.highlightLines_of_none hmode]
    refine ⟨rfl, fun n => ?_⟩
    rw [Registry.buffer_setBuffer_self]
    exact ⟨rfl, rfl⟩

/-- After a change of the second line the first one is taken over, and with it the open comment. With
highlighting switched off, nothing is shown, and the first line stays. -/
theorem highlightLines_from_scratch_edited :
    ∃ t t' : Traced, t.Reachable ∧ (t.registry.buffer 0).validLines = 1 ∧
      (t.registry.highlightLines 0 ["/*".toList, "y */".toList, "let".toList]).2 =
        [[⟨0, 2, .comment⟩], [⟨0, 4, .comment⟩], [⟨0, 3, .keyword⟩]] ∧
      t'.Reachable ∧ (t'.registry.highlightLines 0 ["/*".toList]).2 = [[]] ∧
      ((t'.registry.highlightLines 0 ["/*".toList]).1.buffer 0).states = [⟨1⟩] ∧
      ((t'.registry.buffer 0).invalidateFrom 0).InBounds [] := by
  have hset := (Reachable.empty.perform (.register .ecmaScript) fun h => nomatch h).perform
    (.setMode 0 (some "ecmascript")) trivial
  have hedited := (hset.perform (.highlight 0 ["/*".toList, "x".toList]) rfl).perform
    (.invalidateFrom 0 1) trivial
  have hdisabled := hedited.perform (.setEnabled false) trivial
  refine ⟨_, _, hedited, by decide +kernel, ?_, hdisabled, ?_, ?_, ?_⟩
  · have hshown := highlightLines_from_scratch.1 _ 0 ["/*".toList, "y */".toList, "let".toList]
      hedited (show (_ : List Text) = _ by decide +kernel)
    rw [(hshown.2.1 "ecmascript" .ecmaScript rfl (by decide +kernel) (by decide +kernel)).1]
    decide +kernel
  · have hshown := highlightLines_from_scratch.1 _ 0 ["/*".toList] hdisabled
      (show (_ : List Text) = _ by decide +kernel)
    exact (hshown.2.2 fun ⟨_, _, henabled, _⟩ => nomatch henabled).1
  · have hshown := highlightLines_from_scratch.1 _ 0 ["/*".toList] hdisabled
      (show (_ : List Text) = _ by decide +kernel)
    rw [((hshown.2.2 fun ⟨_, _, henabled, _⟩ => nomatch henabled).2 0).2]
    decide +kernel
  · exact (highlightLines_from_scratch.2 _ 0 hdisabled.registry).2 []

end Traced

end Highlighter
