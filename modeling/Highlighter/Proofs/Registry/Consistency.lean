import Highlighter.Proofs.Registry.Detection

/-!
What the parts of a registry know of each other. Extensions lead to modes that are there, no extension
of a mode is without a way to a mode, and buffers are in modes that are there. Nothing that can be done
to a registry breaks this, except to put a buffer in a mode without asking whether there is one.
-/
namespace Highlighter

/-- The modes that an operation names are made as modes are made, or are looked for. -/
def Operation.Careful : Operation → Prop
  | .register mode => mode.Built
  | .setMode _ mode => mode = none
  | _ => True

namespace Registry

/-- The modes, the extensions that lead to them, and the modes of the buffers fit each other. -/
structure Consistent (registry : Registry) : Prop where
  grounded : registry.Grounded
  claimed : ∀ name mode, registry.get? name = some mode →
    ∀ ext ∈ mode.extensions, (registry.claims.get? ext).isSome
  tidy : ∀ name mode, registry.get? name = some mode → mode.Tidy
  known : ∀ number name, (registry.buffer number).mode = some name → (registry.get? name).isSome

namespace Consistent

variable {registry : Registry}

theorem empty : ({} : Registry).Consistent where
  grounded := fun _ _ h => nomatch h
  claimed := fun _ _ h => nomatch h
  tidy := fun _ _ h => nomatch h
  known := fun _ _ h => nomatch h

theorem register (h : registry.Consistent) {mode : Mode} (hmode : mode.Tidy) :
    (registry.register mode).Consistent where
  grounded := h.grounded.register mode
  claimed name mode' hget ext hext := by
    rw [claims_register]
    split
    · rfl
    · rename_i hnew
      rw [get?_register] at hget
      split at hget
      · cases hget
        exact absurd hext hnew
      · exact h.claimed name mode' hget ext hext
  tidy name mode' hget := by
    rw [get?_register] at hget
    split at hget
    · cases hget
      exact hmode
    · exact h.tidy name mode' hget
  known number name hname := by
    rw [get?_register]
    split
    · rfl
    · exact h.known number name hname

theorem addExtensions (h : registry.Consistent) (entries : List (String × List String)) :
    (registry.addExtensions entries).1.Consistent := by
  induction entries generalizing registry with
  | nil => exact h
  | cons entry entries ih =>
      rw [Registry.addExtensions]
      cases hget : registry.get? entry.1 with
      | none => exact h
      | some mode => exact ih (h.register ((h.tidy _ mode hget).addExtensions _))

theorem switch (h : registry.Consistent) (enabled : Bool) :
    ({ registry with enabled := enabled } : Registry).Consistent :=
  ⟨h.grounded, h.claimed, h.tidy, h.known⟩

theorem setBuffer (h : registry.Consistent) {number : Nat} {buffer : Buffer}
    (hbuffer : ∀ name, buffer.mode = some name → (registry.get? name).isSome) :
    (registry.setBuffer number buffer).Consistent where
  grounded := h.grounded
  claimed := h.claimed
  tidy := h.tidy
  known n name hname := by
    rw [buffer_setBuffer] at hname
    split at hname
    · exact hbuffer name hname
    · exact h.known n name hname

theorem invalidateFrom (h : registry.Consistent) (number line : Nat) :
    (registry.invalidateFrom number line).Consistent := by
  cases hused : registry.buffers.get? number with
  | none =>
      rw [registry.invalidateFrom_of_none hused]
      exact h
  | some buffer =>
      rw [registry.invalidateFrom_of_some hused]
      refine h.setBuffer fun name hname => h.known number name ?_
      rw [Registry.buffer, hused]
      exact hname

theorem removeBuffer (h : registry.Consistent) (number : Nat) :
    (registry.removeBuffer number).Consistent where
  grounded := h.grounded
  claimed := h.claimed
  tidy := h.tidy
  known n name hname := by
    rw [buffer_removeBuffer] at hname
    split at hname
    · cases hname
    · exact h.known n name hname

theorem perform (h : registry.Consistent) {op : Operation} (hop : op.Careful) :
    (registry.perform op).Consistent := by
  cases op with
  | register mode => exact h.register hop.tidy
  | applySettings settings => exact (h.switch settings.highlighting).addExtensions _
  | setEnabled enabled => exact h.switch enabled
  | setModeOfFile n file =>
      refine h.setBuffer fun name hname => ?_
      obtain ⟨path, -, hdetect⟩ := Option.bind_eq_some_iff.1 hname
      exact h.grounded.isSome_of_detect? hdetect
  | setModeByName n name =>
      rw [perform_setModeByName]
      split
      · rename_i hname
        refine h.setBuffer fun name' hname' => ?_
        cases hname'
        exact hname
      · exact h
  | setMode n mode =>
      obtain rfl : mode = none := hop
      exact h.setBuffer fun name hname => nomatch hname
  | invalidateFrom n line => exact h.invalidateFrom n line
  | remove n => exact h.removeBuffer n
  | highlight n lines =>
      cases hactive : registry.activeMode? n with
      | none =>
          rw [Registry.perform, highlightLines_of_none hactive]
          exact h.setBuffer (h.known n)
      | some mode =>
          rw [Registry.perform, highlightLines_of_some hactive]
          exact h.setBuffer (h.known n)

theorem performAll (h : registry.Consistent) {ops : List Operation} (hops : ∀ op ∈ ops, op.Careful) :
    (registry.performAll ops).Consistent := by
  induction ops generalizing registry with
  | nil => exact h
  | cons op ops ih =>
      obtain ⟨hop, hrest⟩ := List.forall_mem_cons.1 hops
      exact ih (h.perform hop) hrest

theorem builtin : builtin.Consistent :=
  (empty.register Mode.built_ecmaScript.tidy).register (Mode.built_actionScript _).tidy

theorem exists_detect? (h : registry.Consistent) {name ext : String} {mode : Mode}
    (hget : registry.get? name = some mode) (hext : ext ∈ mode.extensions) {file : Text}
    (hfile : Text.claimedExtension? file = some ext) :
    ∃ owner, registry.detect? file = some owner ∧ (registry.get? owner).isSome := by
  obtain ⟨owner, howner⟩ := Option.isSome_iff_exists.1 (h.claimed name mode hget ext hext)
  exact ⟨owner, by rw [detect?_eq, hfile]; exact howner, h.grounded ext owner howner⟩

end Consistent

/-- Whatever is done with an empty registry or with the one of the known modes, as long as modes are
made as they should be and looked for before they are used: the parts fit each other, and a file with
an extension of some mode is taken to be in a mode. -/
theorem parts_fit (start : Registry) (ops : List Operation) (hstart : start = {} ∨ start = builtin)
    (hops : ∀ op ∈ ops, op.Careful) :
    (start.performAll ops).Consistent ∧
      ∀ (name ext : String) (mode : Mode) (file : Text),
        (start.performAll ops).get? name = some mode → ext ∈ mode.extensions →
        Text.claimedExtension? file = some ext →
        ∃ owner, (start.performAll ops).detect? file = some owner ∧
          ((start.performAll ops).get? owner).isSome := by
  have hconsistent : (start.performAll ops).Consistent := by
    rcases hstart with rfl | rfl
    · exact Consistent.empty.performAll hops
    · exact Consistent.builtin.performAll hops
  exact ⟨hconsistent, fun name ext mode file hget hext hfile => hconsistent.exists_detect? hget hext hfile⟩

/-- A mode is replaced while a buffer is in it, and settings fail halfway. -/
theorem parts_fit_replaced :
    let mode := (Mode.derive (some .ecmaScript) "ecmascript" "Plain" { name := "plain" }).addExtension ".ES"
    let settings : Settings := { extensions := ⟨[("actionscript", ["..as3", "as3"]), ("cobol", ["cbl"])]⟩ }
    let registry := builtin.performAll
      [.setModeByName 0 "ecmascript", .highlight 0 ["var".toList], .register mode,
        .applySettings settings, .setModeOfFile 1 (some "a.As3".toList)]
    registry.Consistent ∧ (registry.get? "actionscript").map Mode.extensions = some ["as", "as3"] ∧
      ∃ owner, registry.detect? "dir/b.AS3".toList = some owner ∧ (registry.get? owner).isSome := by
  intro mode settings registry
  have hmode : mode.Built := (Mode.Built.derive ..).addExtension _
  obtain ⟨hconsistent, hdetect⟩ := parts_fit builtin
    [.setModeByName 0 "ecmascript", .highlight 0 ["var".toList], .register mode,
      .applySettings settings, .setModeOfFile 1 (some "a.As3".toList)] (.inr rfl)
    (by simpa [Operation.Careful] using hmode)
  have hextensions : (registry.get? "actionscript").map Mode.extensions = some ["as", "as3"] := by
    decide +kernel
  obtain ⟨found, hfound, hlist⟩ := Option.map_eq_some_iff.1 hextensions
  refine ⟨hconsistent, hextensions, hdetect "actionscript" "as3" found _ hfound ?_ (by decide +kernel)⟩
  rw [hlist]
  decide

end Registry

end Highlighter
