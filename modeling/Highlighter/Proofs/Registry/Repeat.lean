import Highlighter.Proofs.Registry.Configured
import Highlighter.Proofs.SortedMap

/-!
Settings that are put into force again. The modes that they mention have all their extensions already, and
the last of them with an extension gets it once more, so the second time changes nothing.
-/
namespace Highlighter.Registry

open SortedMap

/-- Modes are kept under their own names, and the entries of the maps stand in the order of their keys. -/
structure Keyed (registry : Registry) : Prop where
  named : registry.Named
  modes : registry.modes.Sorted
  claims : registry.claims.Sorted

namespace Keyed

variable {registry : Registry}

theorem empty : ({} : Registry).Keyed where
  named := fun _ _ h => nomatch h
  modes := sorted_empty
  claims := sorted_empty

theorem register (h : registry.Keyed) (mode : Mode) : (registry.register mode).Keyed where
  named := h.named.register mode
  modes := h.modes.insert mode.name mode
  claims := h.claims.foldl_insert mode.extensions mode.name

theorem addExtensions (h : registry.Keyed) (entries : List (String × List String)) :
    (registry.addExtensions entries).1.Keyed := by
  induction entries generalizing registry with
  | nil => exact h
  | cons entry entries ih =>
      rw [Registry.addExtensions]
      cases registry.get? entry.1 with
      | none => exact h
      | some mode => exact ih (h.register _)

theorem switch (h : registry.Keyed) (enabled : Bool) :
    ({ registry with enabled := enabled } : Registry).Keyed :=
  ⟨h.named, h.modes, h.claims⟩

theorem perform (h : registry.Keyed) (op : Operation) : (registry.perform op).Keyed := by
  cases op with
  | register mode => exact h.register mode
  | applySettings settings => exact (h.switch settings.highlighting).addExtensions _
  | _ =>
      refine ⟨h.named.perform _, ?_, ?_⟩
      · rw [(modes_claims_perform rfl).1]
        exact h.modes
      · rw [(modes_claims_perform rfl).2]
        exact h.claims

end Keyed

theorem Reachable.keyed {registry : Registry} (h : registry.Reachable) : registry.Keyed := by
  induction h with
  | empty => exact .empty
  | perform _ op ih => exact ih.perform op

/-! ## Where settings end early -/

/-- Whether all modes are registered, or else the first one that is not. -/
def outcome (registry : Registry) (names : List String) : Except Fault Unit :=
  match names.find? fun name => (registry.get? name).isNone with
  | none => .ok ()
  | some name => .error (.unknownMode name)

/-- The entries before the first one whose mode is not registered. -/
def heeded (registry : Registry) (entries : List (String × List String)) : List (String × List String) :=
  entries.takeWhile fun entry => (registry.get? entry.1).isSome

/-- The same names are registered. -/
def SameNames (registry registry' : Registry) : Prop :=
  ∀ name, (registry'.get? name).isSome = (registry.get? name).isSome

variable {registry registry' : Registry} {entries : List (String × List String)}

theorem SameEngines.sameNames (h : registry.SameEngines registry') : registry.SameNames registry' :=
  fun name => by simpa using congrArg Option.isSome (h name)

theorem Named.sameNames_register (h : registry.Named) {name : String} {mode : Mode}
    (hget : registry.get? name = some mode) (extensions : List String) :
    registry.SameNames (registry.register (mode.addExtensions extensions)) := by
  intro name'
  rw [get?_register, (mode.addExtensions_name_engine extensions).1, h name mode hget]
  split
  · rename_i heq
    rw [← heq, hget]
    rfl
  · rfl

theorem SameNames.heeded_eq (h : registry.SameNames registry') :
    registry'.heeded entries = registry.heeded entries := by
  simp only [heeded, h _]

theorem SameNames.outcome_eq (h : registry.SameNames registry') (names : List String) :
    registry'.outcome names = registry.outcome names := by
  simp only [outcome, ← Option.not_isSome, h _]

theorem isSome_of_mem_heeded {entry : String × List String} (h : entry ∈ registry.heeded entries) :
    (registry.get? entry.1).isSome :=
  List.all_eq_true.1 List.all_takeWhile entry h

theorem addExtensions_cons_of_none {name : String} (hget : registry.get? name = none)
    (extensions : List String) :
    registry.addExtensions ((name, extensions) :: entries) = (registry, .error (.unknownMode name)) := by
  rw [addExtensions, hget]

theorem addExtensions_cons_of_some {name : String} {mode : Mode} (hget : registry.get? name = some mode)
    (extensions : List String) :
    registry.addExtensions ((name, extensions) :: entries) =
      (registry.register (mode.addExtensions extensions)).addExtensions entries := by
  rw [addExtensions, hget]

theorem heeded_cons_of_none {name : String} (hget : registry.get? name = none) (extensions : List String) :
    registry.heeded ((name, extensions) :: entries) = [] :=
  List.takeWhile_cons_of_neg (by simp [hget])

theorem heeded_cons_of_some {name : String} {mode : Mode} (hget : registry.get? name = some mode)
    (extensions : List String) :
    registry.heeded ((name, extensions) :: entries) = (name, extensions) :: registry.heeded entries :=
  List.takeWhile_cons_of_pos (by simp [hget])

/-- Only the entries before the first unknown mode count, and for them nothing fails. -/
theorem addExtensions_eq_heeded (h : registry.Named) (entries : List (String × List String)) :
    registry.addExtensions (registry.heeded entries) =
        ((registry.addExtensions entries).1, .ok ()) ∧
      (registry.addExtensions entries).2 = registry.outcome (entries.map Prod.fst) := by
  induction entries generalizing registry with
  | nil => exact ⟨rfl, rfl⟩
  | cons entry entries ih =>
      obtain ⟨name, extensions⟩ := entry
      cases hget : registry.get? name with
      | none =>
          rw [heeded_cons_of_none hget, addExtensions_cons_of_none hget]
          exact ⟨rfl, by simp [outcome, hget]⟩
      | some mode =>
          have hsame := h.sameNames_register hget extensions
          obtain ⟨hheeded, houtcome⟩ := ih (h.register (mode.addExtensions extensions))
          rw [heeded_cons_of_some hget, addExtensions_cons_of_some hget, addExtensions_cons_of_some hget]
          rw [hsame.heeded_eq] at hheeded
          rw [hsame.outcome_eq] at houtcome
          exact ⟨hheeded, by simpa [outcome, hget] using houtcome⟩

/-! ## A second time -/

/-- Every mode is registered and has the extensions that the entries add to it. -/
def Heeds (registry : Registry) (entries : List (String × List String)) : Prop :=
  ∀ name extensions, (name, extensions) ∈ entries →
    ∃ mode, registry.get? name = some mode ∧ mode.addExtensions extensions = mode

theorem heeds_addExtensions (h : registry.Named) (entries : List (String × List String)) :
    (registry.addExtensions entries).1.Heeds (registry.heeded entries) := by
  intro name extensions hmem
  obtain ⟨hheeded, -⟩ := addExtensions_eq_heeded h entries
  have hknown : (registry.get? name).isSome := isSome_of_mem_heeded hmem
  rw [← (h.addExtensions entries).2.sameNames] at hknown
  obtain ⟨mode, hget⟩ := Option.isSome_iff_exists.1 hknown
  refine ⟨mode, hget, Mode.addExtensions_of_forall_mem fun ext hext => ?_⟩
  have hhas := (hasExtension_addExtensions h (congrArg Prod.snd hheeded) ext name).2
    (.inr ⟨extensions, hmem, hext⟩)
  rw [hheeded] at hhas
  simpa [hasExtension, hget] using hhas

theorem Keyed.modes_register (h : registry.Keyed) {name : String} {mode : Mode}
    (hget : registry.get? name = some mode) : (registry.register mode).modes = registry.modes := by
  obtain rfl := h.named name mode hget
  exact h.modes.insert_of_get? hget

theorem Heeds.modes_addExtensions (hheeds : registry.Heeds entries) (h : registry.Keyed) :
    (registry.addExtensions entries).1.modes = registry.modes := by
  induction entries generalizing registry with
  | nil => rfl
  | cons entry entries ih =>
      obtain ⟨name, extensions⟩ := entry
      obtain ⟨mode, hget, hmode⟩ := hheeds name extensions List.mem_cons_self
      have hmodes := h.modes_register hget
      have hrest : (registry.register mode).Heeds entries := fun name' extensions' hmem => by
        rw [get?, hmodes]
        exact hheeds name' extensions' (List.mem_cons_of_mem _ hmem)
      rw [addExtensions_cons_of_some hget, hmode, ← hmodes]
      exact ih hrest (h.register mode)

theorem buffers_addExtensions (entries : List (String × List String)) :
    (registry.addExtensions entries).1.buffers = registry.buffers := by
  induction entries generalizing registry with
  | nil => rfl
  | cons entry entries ih =>
      rw [addExtensions]
      split
      · rfl
      · exact ih

/-- The last mode with an extension has got it already. -/
theorem claims_addExtensions_again {first second : Registry} (h : registry.Named)
    (hfirst : registry.addExtensions entries = (first, .ok ()))
    (hsecond : first.addExtensions entries = (second, .ok ())) (hmodes : second.modes = first.modes)
    (ext : String) : second.claims.get? ext = first.claims.get? ext := by
  have hhas : second.hasExtension ext = first.hasExtension ext := funext fun name => by
    rw [hasExtension, hasExtension, get?, get?, hmodes]
  have hnamed : first.Named := by simpa [hfirst] using (h.addExtensions entries).1
  have hone := claims_addExtensions h (congrArg Prod.snd hfirst) ext
  have htwo := claims_addExtensions hnamed (congrArg Prod.snd hsecond) ext
  rw [hfirst] at hone
  rw [hsecond, hhas] at htwo
  rw [htwo, hone, ← Option.or_assoc, Option.or_self]

attribute [ext] Registry

/-- What the first time has left stays as it is, also where it ended early. -/
theorem Keyed.addExtensions_again (h : registry.Keyed) (entries : List (String × List String)) :
    (registry.addExtensions entries).1.addExtensions entries = registry.addExtensions entries := by
  have hkeyed := h.addExtensions entries
  have hsame := (h.named.addExtensions entries).2.sameNames
  have hheeds := heeds_addExtensions h.named entries
  obtain ⟨hfirst, hresult⟩ := addExtensions_eq_heeded h.named entries
  obtain ⟨hsecond, hresult'⟩ := addExtensions_eq_heeded hkeyed.named entries
  rw [hsame.heeded_eq] at hsecond
  rw [hsame.outcome_eq, ← hresult] at hresult'
  have hmodes : ((registry.addExtensions entries).1.addExtensions entries).1.modes =
      (registry.addExtensions entries).1.modes := by
    simpa [hsecond] using hheeds.modes_addExtensions hkeyed
  refine Prod.ext (Registry.ext hmodes ?_ (buffers_addExtensions entries) ?_) hresult'
  · exact (hkeyed.addExtensions entries).claims.ext hkeyed.claims
      (claims_addExtensions_again h.named hfirst hsecond hmodes)
  · exact enabled_addExtensions _ entries

/-- Settings that are put into force a second time give the same result as the first time, and change
nothing more. The result is a failure exactly if a mode is not registered, and tells the first such mode. -/
theorem applySettings_again (registry : Registry) (settings : Settings) (h : registry.Keyed) :
    (registry.applySettings settings).1.applySettings settings = registry.applySettings settings ∧
      (registry.applySettings settings).2 = registry.outcome settings.extensions.keys := by
  have hswitched := h.switch settings.highlighting
  have henabled : { (registry.applySettings settings).1 with enabled := settings.highlighting } =
      (registry.applySettings settings).1 :=
    Registry.ext rfl rfl rfl (enabled_applySettings registry settings).symm
  refine ⟨?_, (addExtensions_eq_heeded hswitched.named settings.extensions.entries).2⟩
  rw [applySettings, henabled]
  exact hswitched.addExtensions_again settings.extensions.entries

/-- Two modes are set for the same extension, written in three ways, and a mode that is not registered
stands between them and a third one. -/
theorem applySettings_again_unknown :
    let settings : Settings :=
      { highlighting := false
        extensions := ⟨[("actionscript", [".JS", "as3", "..As3"]), ("as2", ["jS"]), ("cobol", ["cbl"]),
          ("ecmascript", ["es"])]⟩ }
    let registry := builtin.register (.derive (some .ecmaScript) "as2" "ActionScript 2" { name := "as2" })
    let once := registry.applySettings settings
    once.2 = .error (.unknownMode "cobol") ∧ once.1.claims.get? "js" = some "as2" ∧
      once.1.applySettings settings = once := by
  intro settings registry once
  have hreachable : registry.Reachable := builtin_reachable.perform (.register _)
  obtain ⟨hagain, hresult⟩ := applySettings_again registry settings hreachable.keyed
  exact ⟨hresult.trans (by rfl), by decide +kernel, hagain⟩

end Highlighter.Registry
