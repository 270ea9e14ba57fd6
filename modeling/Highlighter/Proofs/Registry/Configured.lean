import Highlighter.Proofs.List
import Highlighter.Proofs.Registry.Detection

/-!
Where settings lead an extension. Every mode that they mention claims all of its extensions anew, in the
order of the names, so an extension goes to the last of these modes that has it, and not always to the
one for which it is set.
-/
namespace Highlighter.Registry

def hasExtension (registry : Registry) (ext name : String) : Bool :=
  (registry.get? name).any fun mode => ext ∈ mode.extensions

variable {registry : Registry}

theorem addExtensions_cons_ok (h : registry.Named) {name : String} {extensions : List String}
    {entries : List (String × List String)}
    (hok : (registry.addExtensions ((name, extensions) :: entries)).2 = .ok ()) :
    ∃ mode, registry.get? name = some mode ∧ (mode.addExtensions extensions).name = name ∧
      registry.addExtensions ((name, extensions) :: entries) =
        (registry.register (mode.addExtensions extensions)).addExtensions entries := by
  cases hget : registry.get? name with
  | none =>
      rw [addExtensions, hget] at hok
      cases hok
  | some mode =>
      refine ⟨mode, rfl, (mode.addExtensions_name_engine extensions).1.trans (h name mode hget), ?_⟩
      rw [addExtensions, hget]

theorem hasExtension_register_addExtensions {mode : Mode} {of : String} {extensions : List String}
    (hget : registry.get? of = some mode) (hof : (mode.addExtensions extensions).name = of)
    (ext name : String) :
    (registry.register (mode.addExtensions extensions)).hasExtension ext name = true ↔
      registry.hasExtension ext name = true ∨
        (name = of ∧ ext ∈ extensions.map Mode.normalizeExtension) := by
  rw [hasExtension, get?_register, hof]
  by_cases hname : of = name
  · subst hname
    simp only [if_pos, Option.any_some, decide_eq_true_eq, Mode.mem_addExtensions_iff, hasExtension, hget,
      true_and]
  · rw [if_neg hname]
    exact ⟨.inl, fun h => h.elim id fun hsame => absurd hsame.1.symm hname⟩

theorem hasExtension_addExtensions (h : registry.Named) {entries : List (String × List String)}
    (hok : (registry.addExtensions entries).2 = .ok ()) (ext name : String) :
    (registry.addExtensions entries).1.hasExtension ext name = true ↔
      registry.hasExtension ext name = true ∨
        ∃ list, (name, list) ∈ entries ∧ ext ∈ list.map Mode.normalizeExtension := by
  induction entries generalizing registry with
  | nil => simp [addExtensions]
  | cons entry entries ih =>
      obtain ⟨of, extensions⟩ := entry
      obtain ⟨mode, hget, hof, hstep⟩ := addExtensions_cons_ok h hok
      rw [hstep] at hok ⊢
      rw [ih (h.register _) hok, hasExtension_register_addExtensions hget hof, or_assoc]
      refine or_congr_right ⟨?_, ?_⟩
      · rintro (⟨rfl, hext⟩ | ⟨list, hlist, hext⟩)
        · exact ⟨extensions, List.mem_cons_self, hext⟩
        · exact ⟨list, List.mem_cons_of_mem _ hlist, hext⟩
      · rintro ⟨list, hlist, hext⟩
        rcases List.mem_cons.1 hlist with heq | hlist
        · cases heq
          exact .inl ⟨rfl, hext⟩
        · exact .inr ⟨list, hlist, hext⟩

/-- A mode that is registered and not mentioned any more has in the end the extensions that it has. -/
theorem hasExtension_addExtensions_register (h : registry.Named) {mode : Mode}
    {entries : List (String × List String)}
    (hok : ((registry.register mode).addExtensions entries).2 = .ok ()) (ext : String)
    (hlater : ∀ name ∈ entries.map Prod.fst,
      ((registry.register mode).addExtensions entries).1.hasExtension ext name = false) :
    ((registry.register mode).addExtensions entries).1.hasExtension ext mode.name = true ↔
      ext ∈ mode.extensions := by
  have hend := hasExtension_addExtensions (h.register mode) hok ext mode.name
  have hstart : (registry.register mode).hasExtension ext mode.name = true ↔ ext ∈ mode.extensions := by
    simp [hasExtension]
  rw [← hstart]
  refine ⟨fun hhas => ?_, fun hhas => hend.2 (.inl hhas)⟩
  rcases hend.1 hhas with hnow | ⟨list, hlist, -⟩
  · exact hnow
  · have hnot := hlater _ (List.mem_map_of_mem hlist)
    rw [hhas] at hnot
    cases hnot

/-- An extension goes to the last of the mentioned modes that has it in the end. -/
theorem claims_addExtensions (h : registry.Named) {entries : List (String × List String)}
    (hok : (registry.addExtensions entries).2 = .ok ()) (ext : String) :
    (registry.addExtensions entries).1.claims.get? ext =
      ((entries.map Prod.fst).reverse.find? ((registry.addExtensions entries).1.hasExtension ext)).or
        (registry.claims.get? ext) := by
  induction entries generalizing registry with
  | nil => rfl
  | cons entry entries ih =>
      obtain ⟨of, extensions⟩ := entry
      obtain ⟨mode, -, rfl, hstep⟩ := addExtensions_cons_ok h hok
      rw [hstep] at hok ⊢
      rw [ih (h.register _) hok, List.map_cons, List.reverse_cons, List.find?_append, Option.or_assoc]
      cases hfind : (entries.map Prod.fst).reverse.find?
          (((registry.register (mode.addExtensions extensions)).addExtensions entries).1.hasExtension
            ext) with
      | some owner => rfl
      | none =>
          have hhas := hasExtension_addExtensions_register h hok ext fun name hname =>
            Bool.eq_false_iff.2 (List.find?_eq_none.1 hfind name (List.mem_reverse.2 hname))
          rw [claims_register, Option.none_or, Option.none_or, List.find?_singleton]
          by_cases hext : ext ∈ (mode.addExtensions extensions).extensions
          · rw [if_pos hext, if_pos (hhas.2 hext), Option.some_or]
          · rw [if_neg hext, if_neg (mt hhas.1 hext), Option.none_or]

theorem Named.switch (h : registry.Named) (enabled : Bool) :
    ({ registry with enabled := enabled } : Registry).Named := h

/-! ## Settings in force -/

section

variable {settings : Settings}

theorem hasExtension_applySettings (h : registry.Named)
    (happlied : (registry.applySettings settings).2 = .ok ()) (ext name : String) :
    (registry.applySettings settings).1.hasExtension ext name = true ↔
      registry.hasExtension ext name = true ∨
        ∃ list, (name, list) ∈ settings.extensions.entries ∧ ext ∈ list.map Mode.normalizeExtension :=
  hasExtension_addExtensions (h.switch settings.highlighting) happlied ext name

theorem detect?_applySettings (h : registry.Named)
    (happlied : (registry.applySettings settings).2 = .ok ()) {file : Text} {ext : String}
    (hfile : Text.claimedExtension? file = some ext) :
    (registry.applySettings settings).1.detect? file =
      (settings.extensions.keys.reverse.find? ((registry.applySettings settings).1.hasExtension ext)).or
        (registry.claims.get? ext) := by
  rw [detect?_eq, hfile, Option.bind_some]
  exact claims_addExtensions (h.switch settings.highlighting) happlied ext

/-- If a mode that settings mention has the extension in the end, the last one of them gets the file. -/
theorem exists_last_mentioned (h : registry.Named)
    (happlied : (registry.applySettings settings).2 = .ok ())
    (hsorted : settings.extensions.keys.Pairwise (· < ·)) {file : Text} {ext name : String}
    (hfile : Text.claimedExtension? file = some ext) (hkey : name ∈ settings.extensions.keys)
    (hname : (registry.applySettings settings).1.hasExtension ext name = true) :
    ∃ owner, (registry.applySettings settings).1.detect? file = some owner ∧ ∀ mode, owner = mode ↔
      mode ∈ settings.extensions.keys ∧
        (registry.applySettings settings).1.hasExtension ext mode = true ∧
          ∀ later ∈ settings.extensions.keys, mode < later →
            (registry.applySettings settings).1.hasExtension ext later = false := by
  obtain ⟨owner, howner⟩ := Option.isSome_iff_exists.1
    (List.find?_isSome.2 ⟨name, List.mem_reverse.2 hkey, hname⟩)
  refine ⟨owner, ?_, fun mode => ?_⟩
  · rw [detect?_applySettings h happlied hfile, howner, Option.some_or]
  · rw [← find?_reverse_eq_some_iff (fun a b => String.lt_asymm) hsorted, howner, Option.some_inj]

end

/-- After settings are in force, a file with an extension that they mention is taken to be in the last
of the mentioned modes that has the extension. Where the extension is set for one mode only, this is that
mode just if none of the modes behind it had the extension before. -/
theorem configured_extension_detected (registry : Registry) (settings : Settings)
    (name ext : String) (list : List String) (file : Text) (hreachable : registry.Reachable)
    (happlied : (registry.applySettings settings).2 = .ok ())
    (hsorted : settings.extensions.keys.Pairwise (· < ·))
    (hlisted : (name, list) ∈ settings.extensions.entries) (hext : ext ∈ list)
    (hfile : Text.claimedExtension? file = some (Mode.normalizeExtension ext)) :
    (∃ owner, (registry.applySettings settings).1.detect? file = some owner ∧
      owner ∈ settings.extensions.keys ∧
      (registry.applySettings settings).1.hasExtension (Mode.normalizeExtension ext) owner = true ∧
      ∀ later ∈ settings.extensions.keys, owner < later →
        (registry.applySettings settings).1.hasExtension (Mode.normalizeExtension ext) later = false) ∧
    ((∀ other list', (other, list') ∈ settings.extensions.entries → other ≠ name →
        Mode.normalizeExtension ext ∉ list'.map Mode.normalizeExtension) →
      ((registry.applySettings settings).1.detect? file = some name ↔
        ∀ later ∈ settings.extensions.keys, name < later →
          registry.hasExtension (Mode.normalizeExtension ext) later = false)) := by
  have hhas := hasExtension_applySettings hreachable.named happlied (Mode.normalizeExtension ext)
  have hkey : name ∈ settings.extensions.keys := List.mem_map_of_mem hlisted
  have hname := (hhas name).2 (.inr ⟨list, hlisted, List.mem_map_of_mem hext⟩)
  obtain ⟨owner, hdetect, hlast⟩ :=
    exists_last_mentioned hreachable.named happlied hsorted hfile hkey hname
  refine ⟨⟨owner, hdetect, (hlast owner).1 rfl⟩, fun hother => ?_⟩
  -- the modes behind it get no such extension from the settings
  have hsame : ∀ mode, name < mode →
      (registry.applySettings settings).1.hasExtension (Mode.normalizeExtension ext) mode =
        registry.hasExtension (Mode.normalizeExtension ext) mode := by
    intro mode hlt
    refine Bool.eq_iff_iff.2 ((hhas mode).trans (or_iff_left ?_))
    rintro ⟨list', hlist', hext'⟩
    exact hother mode list' hlist' (fun heq => String.lt_irrefl name (heq ▸ hlt)) hext'
  rw [hdetect, Option.some_inj, hlast name]
  constructor
  · rintro ⟨-, -, hnone⟩ later hlater hlt
    rw [← hsame later hlt]
    exact hnone later hlater hlt
  · intro hbehind
    refine ⟨hkey, hname, fun later hlater hlt => ?_⟩
    rw [hsame later hlt]
    exact hbehind later hlater hlt

/-- Two modes get extensions, and the second one has none of those of the first. -/
theorem configured_extension_detected_upper_case :
    let settings : Settings :=
      { extensions := ⟨[("actionscript", ["..AS3", "fla"]), ("ecmascript", ["es", ".JSM"])]⟩ }
    (builtin.applySettings settings).1.detect? "src/Main.As3".toList = some "actionscript" := by
  intro settings
  have hdetected := configured_extension_detected builtin settings "actionscript" "..AS3"
    ["..AS3", "fla"] "src/Main.As3".toList builtin_reachable (by rfl) (by decide +kernel)
    List.mem_cons_self List.mem_cons_self (by decide +kernel)
  refine (hdetected.2 ?_).2 (by decide +kernel)
  intro other list hother hne
  rcases List.mem_cons.1 hother with heq | hmore
  · exact absurd (Prod.mk.inj heq).1 hne
  · obtain ⟨-, rfl⟩ := Prod.mk.inj (List.mem_singleton.1 hmore)
    decide +kernel

/-- An extension that is set for one mode only goes back to the mode that had it before, because another
extension is set for that mode. -/
theorem configured_extension_taken_back :
    let settings : Settings := { extensions := ⟨[("actionscript", ["js"]), ("ecmascript", ["es"])]⟩ }
    (builtin.applySettings settings).2 = .ok () ∧ Text.claimedExtension? "a.js".toList = some "js" ∧
      Mode.normalizeExtension "js" ∉ ["es"].map Mode.normalizeExtension ∧
      (builtin.applySettings settings).1.detect? "a.js".toList = some "ecmascript" := by
  intro settings
  refine ⟨by rfl, ?_⟩
  decide +kernel

end Highlighter.Registry
