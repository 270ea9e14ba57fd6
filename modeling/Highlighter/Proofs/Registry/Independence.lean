import Highlighter.Proofs.Registry.Detection

/-!
Buffers side by side. They share the modes, and nothing else: whatever is done to one buffer, the modes
stay as they are, and every other buffer goes on as if it had not been done.
-/
namespace Highlighter

/-- What an operation returns. -/
inductive Answer
  | nothing
  | result (outcome : Except Fault Unit)
  | mode (name : Option String)
  | spans (lines : List (List Span))

namespace Operation

/-- The operation is done to no other buffer. -/
def concerns (number : Nat) (op : Operation) : Bool := op.buffer?.all (· == number)

theorem concerns_iff {number : Nat} {op : Operation} :
    op.concerns number = true ↔ ∀ n, op.buffer? = some n → n = number := by
  cases h : op.buffer? <;> simp [concerns, h]

end Operation

namespace Registry

def answer (registry : Registry) : Operation → Answer
  | .applySettings settings => .result (registry.applySettings settings).2
  | .setModeOfFile number file => .mode ((registry.setModeOfFile number file).buffer number).mode
  | .setModeByName number name => .result ((registry.setModeByName number name).map fun _ => ())
  | .highlight number lines => .spans (registry.highlightLines number lines).2
  | .register _ | .setEnabled _ | .setMode _ _ | .invalidateFrom _ _ | .remove _ => .nothing

/-- Operations in turn, each with what it returns and with the buffer of the given number after it. -/
def transcript (registry : Registry) (number : Nat) : List Operation → List (Operation × Answer × Buffer)
  | [] => []
  | op :: ops =>
    (op, registry.answer op, (registry.perform op).buffer number) ::
      (registry.perform op).transcript number ops

/-- Two registries that differ at most in their buffers. -/
structure Alike (registry registry' : Registry) : Prop where
  modes : registry.modes = registry'.modes
  claims : registry.claims = registry'.claims
  enabled : registry.enabled = registry'.enabled

/-- Two registries that differ at most in other buffers. -/
structure AgreeOn (number : Nat) (registry registry' : Registry) : Prop extends
    Alike registry registry' where
  buffer : registry.buffer number = registry'.buffer number

variable {registry registry' : Registry} {number : Nat}

/-! ## Registries that differ in buffers only -/

namespace Alike

theorem refl (registry : Registry) : registry.Alike registry := ⟨rfl, rfl, rfl⟩

theorem symm (h : registry.Alike registry') : registry'.Alike registry :=
  ⟨h.modes.symm, h.claims.symm, h.enabled.symm⟩

theorem trans {registry'' : Registry} (h : registry.Alike registry') (h' : registry'.Alike registry'') :
    registry.Alike registry'' :=
  ⟨h.modes.trans h'.modes, h.claims.trans h'.claims, h.enabled.trans h'.enabled⟩

theorem get?_eq (h : registry.Alike registry') (name : String) :
    registry.get? name = registry'.get? name := by
  rw [get?, get?, h.modes]

theorem detect?_eq (h : registry.Alike registry') (file : Text) :
    registry.detect? file = registry'.detect? file := by
  rw [detect?, detect?, h.claims]

theorem register (h : registry.Alike registry') (mode : Mode) :
    (registry.register mode).Alike (registry'.register mode) where
  modes := by simp only [Registry.register, claim, h.modes]
  claims := by simp only [Registry.register, claim, h.claims]
  enabled := h.enabled

theorem addExtensions (h : registry.Alike registry') (entries : List (String × List String)) :
    (registry.addExtensions entries).1.Alike (registry'.addExtensions entries).1 ∧
      (registry.addExtensions entries).2 = (registry'.addExtensions entries).2 := by
  induction entries generalizing registry registry' with
  | nil => exact ⟨h, rfl⟩
  | cons entry entries ih =>
      rw [Registry.addExtensions, Registry.addExtensions, ← h.get?_eq]
      cases registry.get? entry.1 with
      | none => exact ⟨h, rfl⟩
      | some mode => exact ih (h.register _)

theorem applySettings (h : registry.Alike registry') (settings : Settings) :
    (registry.applySettings settings).1.Alike (registry'.applySettings settings).1 ∧
      (registry.applySettings settings).2 = (registry'.applySettings settings).2 := by
  have hswitched : ({ registry with enabled := settings.highlighting } : Registry).Alike
      { registry' with enabled := settings.highlighting } := ⟨h.modes, h.claims, rfl⟩
  exact hswitched.addExtensions _

theorem setBuffer (h : registry.Alike registry') (number : Nat) (buffer : Buffer) :
    AgreeOn number (registry.setBuffer number buffer) (registry'.setBuffer number buffer) where
  toAlike := ⟨h.modes, h.claims, h.enabled⟩
  buffer := by simp

end Alike

/-! ## What is done to a buffer -/

theorem alike_perform (registry : Registry) {op : Operation} {n : Nat} (h : op.buffer? = some n) :
    registry.Alike (registry.perform op) := by
  rcases registry.perform_cases h with heq | heq | ⟨buffer, heq⟩ <;> rw [heq] <;>
    exact ⟨rfl, rfl, rfl⟩

theorem agreeOn_perform (registry : Registry) {op : Operation} {n : Nat} (h : op.buffer? = some n)
    (hn : n ≠ number) : AgreeOn number registry (registry.perform op) where
  toAlike := registry.alike_perform h
  buffer := by
    rcases registry.perform_cases h with heq | heq | ⟨buffer, heq⟩ <;> rw [heq]
    · rw [buffer_removeBuffer, if_neg hn]
    · rw [buffer_setBuffer, if_neg hn]

/-! ## Two runs -/

namespace AgreeOn

theorem refl (number : Nat) (registry : Registry) : AgreeOn number registry registry :=
  ⟨.refl registry, rfl⟩

theorem symm (h : AgreeOn number registry registry') : AgreeOn number registry' registry :=
  ⟨h.toAlike.symm, h.buffer.symm⟩

theorem trans {registry'' : Registry} (h : AgreeOn number registry registry')
    (h' : AgreeOn number registry' registry'') : AgreeOn number registry registry'' :=
  ⟨h.toAlike.trans h'.toAlike, h.buffer.trans h'.buffer⟩

theorem activeMode?_eq (h : AgreeOn number registry registry') :
    registry.activeMode? number = registry'.activeMode? number := by
  have hget : registry.get? = registry'.get? := funext h.get?_eq
  rw [activeMode?, activeMode?, h.enabled, h.buffer, hget]

theorem setMode (h : AgreeOn number registry registry') (mode : Option String) :
    AgreeOn number (registry.setMode number mode) (registry'.setMode number mode) := by
  rw [Registry.setMode, Registry.setMode, h.buffer]
  exact h.toAlike.setBuffer ..

theorem perform (h : AgreeOn number registry registry') {op : Operation}
    (hop : op.concerns number = true) :
    AgreeOn number (registry.perform op) (registry'.perform op) ∧
      registry.answer op = registry'.answer op := by
  have hself : ∀ n, op.buffer? = some n → n = number := Operation.concerns_iff.1 hop
  cases op with
  | register mode => exact ⟨⟨h.toAlike.register mode, h.buffer⟩, rfl⟩
  | applySettings settings =>
      obtain ⟨halike, hresult⟩ := h.toAlike.applySettings settings
      refine ⟨⟨halike, ?_⟩, congrArg Answer.result hresult⟩
      rw [Registry.perform, Registry.perform, buffer_applySettings, buffer_applySettings, h.buffer]
  | setEnabled enabled => exact ⟨⟨⟨h.modes, h.claims, rfl⟩, h.buffer⟩, rfl⟩
  | setModeOfFile n file =>
      obtain rfl := hself n rfl
      have hdetect : registry.detect? = registry'.detect? := funext h.detect?_eq
      have hafter : AgreeOn n (registry.setModeOfFile n file) (registry'.setModeOfFile n file) := by
        rw [setModeOfFile, setModeOfFile, hdetect]
        exact h.setMode _
      exact ⟨hafter, by rw [answer, answer, hafter.buffer]⟩
  | setModeByName n name =>
      obtain rfl := hself n rfl
      rw [perform_setModeByName, perform_setModeByName, answer, answer, setModeByName, setModeByName,
        h.get?_eq]
      by_cases hname : (registry'.get? name).isSome
      · simp only [if_pos hname]
        exact ⟨h.setMode _, rfl⟩
      · simp only [if_neg hname]
        exact ⟨h, trivial⟩
  | setMode n mode =>
      obtain rfl := hself n rfl
      exact ⟨h.setMode mode, rfl⟩
  | invalidateFrom n line =>
      obtain rfl := hself n rfl
      have hleft : registry.Alike (registry.perform (.invalidateFrom n line)) := alike_perform _ rfl
      have hright : registry'.Alike (registry'.perform (.invalidateFrom n line)) := alike_perform _ rfl
      refine ⟨⟨hleft.symm.trans (h.toAlike.trans hright), ?_⟩, rfl⟩
      rw [Registry.perform, Registry.perform, buffer_invalidateFrom, buffer_invalidateFrom, h.buffer]
  | remove n =>
      obtain rfl := hself n rfl
      refine ⟨⟨⟨h.modes, h.claims, h.enabled⟩, ?_⟩, rfl⟩
      simp only [Registry.perform, buffer_removeBuffer, ↓reduceIte]
  | highlight n lines =>
      obtain rfl := hself n rfl
      rw [Registry.perform, Registry.perform, answer, answer]
      cases hactive : registry.activeMode? n with
      | none =>
          rw [highlightLines_of_none hactive, highlightLines_of_none (h.activeMode?_eq ▸ hactive),
            h.buffer]
          exact ⟨h.toAlike.setBuffer .., rfl⟩
      | some mode =>
          rw [highlightLines_of_some hactive, highlightLines_of_some (h.activeMode?_eq ▸ hactive),
            h.buffer]
          exact ⟨h.toAlike.setBuffer .., rfl⟩

theorem run (h : AgreeOn number registry registry') (ops : List Operation) :
    (registry.transcript number ops).filter (fun entry => entry.1.concerns number) =
        registry'.transcript number (ops.filter (Operation.concerns number)) ∧
      AgreeOn number (registry.performAll ops)
        (registry'.performAll (ops.filter (Operation.concerns number))) := by
  induction ops generalizing registry registry' with
  | nil => exact ⟨rfl, h⟩
  | cons op ops ih =>
      cases hop : op.concerns number with
      | true =>
          obtain ⟨hafter, hanswer⟩ := h.perform hop
          obtain ⟨hrest, hend⟩ := ih hafter
          simp only [transcript, List.filter_cons, hop, ↓reduceIte, hanswer, hafter.buffer, hrest]
          exact ⟨trivial, hend⟩
      | false =>
          -- the second registry stays where it is
          obtain ⟨n, hn, hne⟩ : ∃ n, op.buffer? = some n ∧ n ≠ number := by
            simpa [Operation.concerns_iff] using (Bool.eq_false_iff.1 hop)
          simp only [transcript, List.filter_cons, hop, Bool.false_eq_true, ↓reduceIte]
          exact ih ((registry.agreeOn_perform hn hne).symm.trans h)

end AgreeOn

/-- In a run over many buffers, what the operations on one of them and on the modes return, and the
buffer after each of them, are as in the run without the operations on the other buffers. No operation
on a buffer changes the modes, and one that fails changes nothing. -/
theorem buffers_do_not_interfere (registry : Registry) :
    (∀ (number : Nat) (ops : List Operation),
      (registry.transcript number ops).filter (fun entry => entry.1.concerns number) =
          registry.transcript number (ops.filter (Operation.concerns number)) ∧
        AgreeOn number (registry.performAll ops)
          (registry.performAll (ops.filter (Operation.concerns number)))) ∧
    (∀ (op : Operation) (n : Nat), op.buffer? = some n → registry.Alike (registry.perform op)) ∧
    ∀ (number : Nat) (name : String) (fault : Fault),
      registry.answer (.setModeByName number name) = .result (.error fault) →
        registry.get? name = none ∧ fault = .unknownMode name ∧
          registry.perform (.setModeByName number name) = registry := by
  refine ⟨fun number ops => (AgreeOn.refl number registry).run ops,
    fun op n h => registry.alike_perform h, fun number name fault hfails => ?_⟩
  rw [answer, setModeByName] at hfails
  rw [perform_setModeByName]
  cases hget : registry.get? name with
  | some mode =>
      rw [hget] at hfails
      cases hfails
  | none =>
      rw [hget] at hfails
      cases hfails
      exact ⟨rfl, rfl, rfl⟩

/-- The second buffer gets lines, a mode that is not there, and is closed, between two calls for the
lines of the first one. -/
theorem buffers_do_not_interfere_interleaved :
    let ops : List Operation :=
      [.setModeByName 0 "ecmascript", .setModeByName 1 "actionscript", .highlight 1 ["/*".toList],
        .highlight 0 ["var".toList], .setModeByName 1 "cobol", .setEnabled true, .remove 1,
        .highlight 0 ["var".toList, "x".toList]]
    ((builtin.performAll ops).buffer 0).spans = [[⟨0, 3, .keyword⟩], []] ∧
      builtin.Alike (builtin.perform (.remove 1)) ∧
      builtin.perform (.setModeByName 1 "cobol") = builtin := by
  intro ops
  obtain ⟨hrun, halike, hfails⟩ := buffers_do_not_interfere builtin
  refine ⟨?_, halike _ 1 rfl, (hfails 1 "cobol" (.unknownMode "cobol") ?_).2.2⟩
  · rw [(hrun 0 ops).2.buffer]
    decide +kernel
  · rfl

end Registry

end Highlighter
