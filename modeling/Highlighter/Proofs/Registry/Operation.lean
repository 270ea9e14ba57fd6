import Highlighter.Registry

/-! What can be done with a registry, and what each operation leaves as it is. -/
namespace Highlighter

/-- What can be done with a registry. Buffers are known by their numbers. -/
inductive Operation
  | register (mode : Mode)
  | applySettings (settings : Settings)
  | setEnabled (enabled : Bool)
  | setModeOfFile (number : Nat) (file : Option Text)
  | setModeByName (number : Nat) (name : String)
  /-- Puts a buffer in a mode that need not be registered. -/
  | setMode (number : Nat) (mode : Option String)
  /-- Line 0 stands for all lines. -/
  | invalidateFrom (number line : Nat)
  | remove (number : Nat)
  | highlight (number : Nat) (lines : List Text)

def Operation.registers : Operation → Bool
  | .register _ | .applySettings _ => true
  | _ => false

/-- The buffer to which an operation is done; some are done to none. -/
def Operation.buffer? : Operation → Option Nat
  | .register _ | .applySettings _ | .setEnabled _ => none
  | .setModeOfFile n _ | .setModeByName n _ | .setMode n _ | .invalidateFrom n _ | .remove n
  | .highlight n _ => some n

namespace Registry

/-- The registry after an operation. A mode by a name that is unknown changes nothing. -/
def perform (registry : Registry) : Operation → Registry
  | .register mode => registry.register mode
  | .applySettings settings => (registry.applySettings settings).1
  | .setEnabled enabled => { registry with enabled := enabled }
  | .setModeOfFile number file => registry.setModeOfFile number file
  | .setModeByName number name =>
    match registry.setModeByName number name with
    | .ok changed => changed
    | .error _ => registry
  | .setMode number mode => registry.setMode number mode
  | .invalidateFrom number line => registry.invalidateFrom number line
  | .remove number => registry.removeBuffer number
  | .highlight number lines => (registry.highlightLines number lines).1

/-- The registries that come about, beginning with an empty one. -/
inductive Reachable : Registry → Prop
  | empty : Reachable {}
  | perform {registry : Registry} (h : Reachable registry) (op : Operation) :
      Reachable (registry.perform op)

theorem builtin_reachable : builtin.Reachable :=
  (Reachable.empty.perform (.register .ecmaScript)).perform (.register (.actionScript .ecmaScript))

variable (registry : Registry)

@[simp] theorem get?_register (mode : Mode) (name : String) :
    (registry.register mode).get? name = if mode.name = name then some mode else registry.get? name :=
  SortedMap.get?_insert ..

@[simp] theorem buffer_register (mode : Mode) (number : Nat) :
    (registry.register mode).buffer number = registry.buffer number := rfl

@[simp] theorem get?_setBuffer (number : Nat) (buffer : Buffer) (name : String) :
    (registry.setBuffer number buffer).get? name = registry.get? name := rfl

@[simp] theorem buffer_setBuffer (number number' : Nat) (buffer : Buffer) :
    (registry.setBuffer number buffer).buffer number' =
      if number = number' then buffer else registry.buffer number' := by
  rw [Registry.buffer, setBuffer, SortedMap.get?_insert]
  split <;> rfl

theorem buffer_setBuffer_self (number number' : Nat) :
    (registry.setBuffer number (registry.buffer number)).buffer number' = registry.buffer number' := by
  rw [buffer_setBuffer]
  split
  · rename_i h
    rw [h]
  · rfl

theorem invalidateFrom_of_none {number : Nat} (h : registry.buffers.get? number = none) (line : Nat) :
    registry.invalidateFrom number line = registry := by
  rw [invalidateFrom, h]

theorem invalidateFrom_of_some {number : Nat} {buffer : Buffer}
    (h : registry.buffers.get? number = some buffer) (line : Nat) :
    registry.invalidateFrom number line = registry.setBuffer number (buffer.invalidateFrom line) := by
  rw [invalidateFrom, h]

/-- A buffer that was not used yet is empty, so it has no lines that could be dropped. -/
@[simp] theorem buffer_invalidateFrom (number number' line : Nat) :
    (registry.invalidateFrom number line).buffer number' =
      if number = number' then (registry.buffer number).invalidateFrom line
      else registry.buffer number' := by
  have hread : registry.buffer number = (registry.buffers.get? number).getD {} := rfl
  cases hused : registry.buffers.get? number with
  | none =>
      rw [hused, Option.getD_none] at hread
      rw [registry.invalidateFrom_of_none hused]
      split
      · rename_i h
        rw [← h, hread]
        simp [Buffer.invalidateFrom]
      · rfl
  | some buffer =>
      rw [hused, Option.getD_some] at hread
      rw [registry.invalidateFrom_of_some hused, buffer_setBuffer, hread]

@[simp] theorem get?_removeBuffer (number : Nat) (name : String) :
    (registry.removeBuffer number).get? name = registry.get? name := rfl

@[simp] theorem buffer_removeBuffer (number number' : Nat) :
    (registry.removeBuffer number).buffer number' =
      if number = number' then {} else registry.buffer number' := by
  rw [Registry.buffer, removeBuffer, SortedMap.get?_erase]
  split <;> rfl

theorem perform_setModeByName (number : Nat) (name : String) :
    registry.perform (.setModeByName number name) =
      if (registry.get? name).isSome then registry.setMode number (some name) else registry := by
  rw [perform, setModeByName]
  by_cases hname : (registry.get? name).isSome
  · rw [if_pos hname, if_pos hname]
  · rw [if_neg hname, if_neg hname]

theorem activeMode?_eq_some_iff {registry : Registry} {number : Nat} {mode : Mode} :
    registry.activeMode? number = some mode ↔
      registry.enabled = true ∧
        ∃ name, (registry.buffer number).mode = some name ∧ registry.get? name = some mode := by
  simp [activeMode?, Option.bind_eq_some_iff]

theorem highlightLines_of_none {registry : Registry} {number : Nat}
    (h : registry.activeMode? number = none) (lines : List Text) :
    registry.highlightLines number lines =
      (registry.setBuffer number (registry.buffer number), lines.map fun _ => []) := by
  rw [highlightLines, h]

theorem highlightLines_of_some {registry : Registry} {number : Nat} {mode : Mode}
    (h : registry.activeMode? number = some mode) (lines : List Text) :
    registry.highlightLines number lines =
      (registry.setBuffer number ((registry.buffer number).highlight mode.engine lines),
        ((registry.buffer number).highlight mode.engine lines).spans) := by
  rw [highlightLines, h]

/-- An operation on a buffer leaves everything, puts in a buffer of its number or removes it. -/
theorem perform_cases {op : Operation} {n : Nat} (h : op.buffer? = some n) :
    registry.perform op = registry ∨ registry.perform op = registry.removeBuffer n ∨
      ∃ buffer, registry.perform op = registry.setBuffer n buffer := by
  cases op with
  | register | applySettings | setEnabled => cases h
  | setModeOfFile n | setMode n =>
      cases h
      exact .inr (.inr ⟨_, rfl⟩)
  | setModeByName n name =>
      cases h
      rw [perform_setModeByName]
      split
      · exact .inr (.inr ⟨_, rfl⟩)
      · exact .inl rfl
  | invalidateFrom n line =>
      cases h
      cases hused : registry.buffers.get? n with
      | none => exact .inl (registry.invalidateFrom_of_none hused line)
      | some buffer => exact .inr (.inr ⟨_, registry.invalidateFrom_of_some hused line⟩)
  | remove n =>
      cases h
      exact .inr (.inl rfl)
  | highlight n lines =>
      cases h
      cases hactive : registry.activeMode? n with
      | none =>
          rw [perform, highlightLines_of_none hactive]
          exact .inr (.inr ⟨_, rfl⟩)
      | some mode =>
          rw [perform, highlightLines_of_some hactive]
          exact .inr (.inr ⟨_, rfl⟩)

/-- A mode is known by its own name. -/
def Named (registry : Registry) : Prop :=
  ∀ name mode, registry.get? name = some mode → mode.name = name

theorem Named.register {registry : Registry} (h : registry.Named) (mode : Mode) :
    (registry.register mode).Named := by
  intro name mode' hget
  rw [get?_register] at hget
  split at hget
  · rename_i hname
    cases hget
    exact hname
  · exact h name mode' hget

/-- The modes of two registries have the same names and the same highlighters. -/
def SameEngines (registry registry' : Registry) : Prop :=
  ∀ name, (registry'.get? name).map Mode.engine = (registry.get? name).map Mode.engine

end Registry

theorem Mode.addExtensions_name_engine (mode : Mode) (extensions : List String) :
    (mode.addExtensions extensions).name = mode.name ∧
      (mode.addExtensions extensions).engine = mode.engine := by
  unfold Mode.addExtensions
  induction extensions generalizing mode with
  | nil => exact ⟨rfl, rfl⟩
  | cons ext extensions ih =>
      obtain ⟨hname, hengine⟩ := ih (mode.addExtension ext)
      have hone : (mode.addExtension ext).name = mode.name ∧
          (mode.addExtension ext).engine = mode.engine := by
        simp only [Mode.addExtension]
        split <;> exact ⟨rfl, rfl⟩
      exact ⟨hname.trans hone.1, hengine.trans hone.2⟩

namespace Registry

@[simp] theorem buffer_addExtensions (registry : Registry) (entries : List (String × List String))
    (number : Nat) : (registry.addExtensions entries).1.buffer number = registry.buffer number := by
  induction entries generalizing registry with
  | nil => rfl
  | cons entry entries ih =>
      rw [addExtensions]
      split
      · rfl
      · rw [ih, buffer_register]

@[simp] theorem buffer_applySettings (registry : Registry) (settings : Settings) (number : Nat) :
    (registry.applySettings settings).1.buffer number = registry.buffer number := by
  rw [applySettings, buffer_addExtensions]
  rfl

@[simp] theorem enabled_addExtensions (registry : Registry) (entries : List (String × List String)) :
    (registry.addExtensions entries).1.enabled = registry.enabled := by
  induction entries generalizing registry with
  | nil => rfl
  | cons entry entries ih =>
      rw [addExtensions]
      split
      · rfl
      · rw [ih]
        rfl

@[simp] theorem enabled_applySettings (registry : Registry) (settings : Settings) :
    (registry.applySettings settings).1.enabled = settings.highlighting := by
  rw [applySettings, enabled_addExtensions]

theorem Named.addExtensions {registry : Registry} (h : registry.Named)
    (entries : List (String × List String)) :
    (registry.addExtensions entries).1.Named ∧
      registry.SameEngines (registry.addExtensions entries).1 := by
  induction entries generalizing registry with
  | nil => exact ⟨h, fun _ => rfl⟩
  | cons entry entries ih =>
      obtain ⟨name, extensions⟩ := entry
      rw [Registry.addExtensions]
      cases hget : registry.get? name with
      | none => exact ⟨h, fun _ => rfl⟩
      | some mode =>
          obtain ⟨hname, hengine⟩ := mode.addExtensions_name_engine extensions
          obtain ⟨hnamed, hsame⟩ := ih (h.register (mode.addExtensions extensions))
          refine ⟨hnamed, fun name' => (hsame name').trans ?_⟩
          rw [get?_register, hname, h name mode hget]
          split
          · rename_i heq
            simp [← heq, hget, hengine]
          · rfl

theorem Named.applySettings {registry : Registry} (h : registry.Named) (settings : Settings) :
    (registry.applySettings settings).1.Named ∧
      registry.SameEngines (registry.applySettings settings).1 :=
  @Named.addExtensions { registry with enabled := settings.highlighting } h _

/-- Modes and the extensions that lead to them change only where modes are registered. -/
theorem modes_claims_perform {registry : Registry} {op : Operation} (h : op.registers = false) :
    (registry.perform op).modes = registry.modes ∧ (registry.perform op).claims = registry.claims := by
  cases hop : op.buffer? with
  | some n =>
      rcases registry.perform_cases hop with heq | heq | ⟨buffer, heq⟩ <;> rw [heq] <;>
        exact ⟨rfl, rfl⟩
  | none =>
      cases op with
      | register | applySettings => cases h
      | setEnabled => exact ⟨rfl, rfl⟩
      | _ => cases hop

theorem get?_perform {registry : Registry} {op : Operation} (h : op.registers = false) (name : String) :
    (registry.perform op).get? name = registry.get? name := by
  rw [get?, (modes_claims_perform h).1, get?]

theorem Named.perform {registry : Registry} (h : registry.Named) (op : Operation) :
    (registry.perform op).Named := by
  cases op with
  | register mode => exact h.register mode
  | applySettings settings => exact (h.applySettings settings).1
  | _ =>
      intro name mode hget
      rw [get?_perform rfl] at hget
      exact h name mode hget

theorem Reachable.named {registry : Registry} (h : registry.Reachable) : registry.Named := by
  induction h with
  | empty =>
      intro name mode hget
      cases hget
  | perform _ op ih => exact ih.perform op

end Registry

end Highlighter
