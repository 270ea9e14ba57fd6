import Highlighter.Proofs.Mode.Extensions
import Highlighter.Proofs.Registry.Operation

/-!
Which mode a file is taken to be in. An extension leads to the mode that claimed it last; it goes on
leading to the name of this mode when a mode without the extension takes its place.
-/
namespace Highlighter

namespace Text

/-- What a mode has to claim for a file to be in it: the file's extension in lower case. -/
def claimedExtension? (file : Text) : Option String :=
  (extension? file).map fun ext => String.ofList (toLower ext)

end Text

theorem SortedMap.get?_foldl_insert {κ ν : Type} [DecidableEq κ] [LT κ] [DecidableLT κ]
    (map : SortedMap κ ν) (keys : List κ) (value : ν) (key : κ) :
    (keys.foldl (fun map k => map.insert k value) map).get? key =
      if key ∈ keys then some value else map.get? key := by
  induction keys generalizing map with
  | nil => simp
  | cons k keys ih =>
      rw [List.foldl_cons, ih, get?_insert]
      by_cases hk : k = key
      · simp [hk]
      · simp [hk, Ne.symm hk]

namespace Registry

/-- The registry after operations, one after the other. -/
def performAll (registry : Registry) (ops : List Operation) : Registry := ops.foldl perform registry

/-- The modes that are registered anew for more extensions. -/
def extended (registry : Registry) : List (String × List String) → List Mode
  | [] => []
  | (name, extensions) :: more =>
    match registry.get? name with
    | none => []
    | some mode =>
      mode.addExtensions extensions ::
        (registry.register (mode.addExtensions extensions)).extended more

/-- The modes that an operation registers. -/
def registered (registry : Registry) : Operation → List Mode
  | .register mode => [mode]
  | .applySettings settings =>
    { registry with enabled := settings.highlighting }.extended settings.extensions.entries
  | _ => []

/-- The modes that operations register, one after the other. -/
def history (registry : Registry) : List Operation → List Mode
  | [] => []
  | op :: ops => registry.registered op ++ (registry.perform op).history ops

/-- An extension leads to a name whose mode does not claim it. -/
def Stray (registry : Registry) (ext name : String) : Prop :=
  registry.claims.get? ext = some name ∧
    ∀ mode, registry.get? name = some mode → ext ∉ mode.extensions

/-- Every extension leads to the name of a mode. -/
def Grounded (registry : Registry) : Prop :=
  ∀ ext name, registry.claims.get? ext = some name → (registry.get? name).isSome

theorem detect?_eq (registry : Registry) (file : Text) :
    registry.detect? file = (Text.claimedExtension? file).bind registry.claims.get? := by
  rw [detect?, Text.claimedExtension?]
  cases Text.extension? file <;> rfl

theorem Grounded.isSome_of_detect? {registry : Registry} (h : registry.Grounded) {file : Text}
    {name : String} (hdetect : registry.detect? file = some name) : (registry.get? name).isSome := by
  rw [detect?_eq] at hdetect
  obtain ⟨ext, -, hclaim⟩ := Option.bind_eq_some_iff.1 hdetect
  exact h ext name hclaim

/-! ## One mode more -/

@[simp] theorem claims_register (registry : Registry) (mode : Mode) (ext : String) :
    (registry.register mode).claims.get? ext =
      if ext ∈ mode.extensions then some mode.name else registry.claims.get? ext :=
  SortedMap.get?_foldl_insert ..

theorem stray_register {registry : Registry} {mode : Mode} {ext name : String} :
    (registry.register mode).Stray ext name ↔
      ext ∉ mode.extensions ∧ registry.claims.get? ext = some name ∧
        (mode.name = name ∨ registry.Stray ext name) := by
  by_cases hext : ext ∈ mode.extensions
  · -- the mode claims the extension for itself
    refine iff_of_false ?_ fun h => h.1 hext
    rintro ⟨hclaim, hnone⟩
    rw [claims_register, if_pos hext] at hclaim
    exact hnone mode (by rw [get?_register, if_pos (Option.some.inj hclaim)]) hext
  · rw [Stray, claims_register, if_neg hext, get?_register]
    by_cases hname : mode.name = name
    · simp [hname, hext]
    · simp +contextual [hname, hext, Stray]

theorem Grounded.register {registry : Registry} (h : registry.Grounded) (mode : Mode) :
    (registry.register mode).Grounded := by
  intro ext name hclaim
  rw [claims_register] at hclaim
  rw [get?_register]
  split
  · rfl
  · rename_i hname
    split at hclaim
    · exact absurd (Option.some.inj hclaim) hname
    · exact h ext name hclaim

/-! ## One operation -/

/-- A mode that gets more extensions keeps those it has, so no extension is lost. -/
theorem stray_addExtensions {registry : Registry} (h : registry.Named)
    (entries : List (String × List String)) {ext name : String} :
    (registry.addExtensions entries).1.Stray ext name ↔
      (∀ mode ∈ registry.extended entries, ext ∉ mode.extensions) ∧ registry.Stray ext name := by
  induction entries generalizing registry with
  | nil => simp [addExtensions, extended]
  | cons entry entries ih =>
      obtain ⟨of, extensions⟩ := entry
      rw [addExtensions, extended]
      cases hget : registry.get? of with
      | none => simp
      | some mode =>
          have hof : (mode.addExtensions extensions).name = of :=
            (mode.addExtensions_name_engine extensions).1.trans (h of mode hget)
          simp only [ih (h.register _), stray_register, List.forall_mem_cons, hof]
          constructor
          · rintro ⟨hmore, hnew, hclaim, rfl | hstray⟩
            · refine ⟨⟨hnew, hmore⟩, hclaim, fun mode' hget' hext => hnew ?_⟩
              rw [hget, Option.some.injEq] at hget'
              exact Mode.mem_addExtensions_iff.2 (.inl (hget' ▸ hext))
            · exact ⟨⟨hnew, hmore⟩, hstray⟩
          · rintro ⟨⟨hnew, hmore⟩, hstray⟩
            exact ⟨hmore, hnew, hstray.1, .inr hstray⟩

theorem Grounded.addExtensions {registry : Registry} (h : registry.Grounded)
    (entries : List (String × List String)) : (registry.addExtensions entries).1.Grounded := by
  induction entries generalizing registry with
  | nil => exact h
  | cons entry entries ih =>
      rw [Registry.addExtensions]
      split
      · exact h
      · exact ih (h.register _)

theorem Grounded.perform {registry : Registry} (h : registry.Grounded) (op : Operation) :
    (registry.perform op).Grounded := by
  cases op with
  | register mode => exact h.register mode
  | applySettings settings =>
      exact @Grounded.addExtensions { registry with enabled := settings.highlighting } h _
  | _ =>
      intro ext name hclaim
      rw [(modes_claims_perform rfl).2] at hclaim
      rw [get?, (modes_claims_perform rfl).1]
      exact h ext name hclaim

theorem Reachable.grounded {registry : Registry} (h : registry.Reachable) : registry.Grounded := by
  induction h with
  | empty =>
      intro ext name hclaim
      cases hclaim
  | perform _ op ih => exact ih.perform op

/-- An extension goes astray in one way only: a mode without it takes the place of the mode to which
it leads. It is found again as soon as a mode claims it. -/
theorem stray_perform {registry : Registry} (h : registry.Named) (op : Operation) {ext name : String} :
    (registry.perform op).Stray ext name ↔
      (∀ mode ∈ registry.registered op, ext ∉ mode.extensions) ∧
        registry.claims.get? ext = some name ∧
          ((∃ mode, op = .register mode ∧ mode.name = name) ∨ registry.Stray ext name) := by
  cases op with
  | register mode =>
      rw [perform, stray_register]
      simp [registered]
  | applySettings settings =>
      have hsame : ({ registry with enabled := settings.highlighting } : Registry).Stray ext name ↔
          registry.Stray ext name := Iff.rfl
      rw [perform, applySettings,
        @stray_addExtensions { registry with enabled := settings.highlighting } h, hsame]
      simp +contextual [registered, Stray]
  | _ =>
      rw [Stray, get?, (modes_claims_perform rfl).1, (modes_claims_perform rfl).2]
      simp +contextual [registered, Stray, get?]

/-! ## Many operations -/

theorem Grounded.performAll {registry : Registry} (h : registry.Grounded) (ops : List Operation) :
    (registry.performAll ops).Grounded := by
  induction ops generalizing registry with
  | nil => exact h
  | cons op ops ih => exact ih (h.perform op)

theorem stray_performAll {registry : Registry} (h : registry.Named) (ops : List Operation)
    {ext name : String} :
    (registry.performAll ops).Stray ext name ↔
      ((∀ mode ∈ registry.history ops, ext ∉ mode.extensions) ∧ registry.Stray ext name) ∨
        ∃ before mode after, ops = before ++ .register mode :: after ∧ mode.name = name ∧
          (registry.performAll before).claims.get? ext = some name ∧
            ∀ m ∈ (registry.performAll before).history (.register mode :: after),
              ext ∉ m.extensions := by
  induction ops generalizing registry with
  | nil => simp [performAll, history]
  | cons op ops ih =>
      rw [performAll, List.foldl_cons, ← performAll, ih (h.perform op), stray_perform h]
      constructor
      · rintro (⟨hlater, hnow, hclaim, ⟨mode, rfl, hname⟩ | hstray⟩ |
          ⟨before, mode, after, rfl, hname, hclaim, hlater⟩)
        · exact .inr ⟨[], mode, ops, rfl, hname, hclaim,
            List.forall_mem_append.2 ⟨hnow, hlater⟩⟩
        · exact .inl ⟨List.forall_mem_append.2 ⟨hnow, hlater⟩, hstray⟩
        · exact .inr ⟨op :: before, mode, after, rfl, hname, hclaim, hlater⟩
      · rintro (⟨hall, hstray⟩ | ⟨before, mode, after, hops, hname, hclaim, hall⟩)
        · obtain ⟨hnow, hlater⟩ := List.forall_mem_append.1 hall
          exact .inl ⟨hlater, hnow, hstray.1, .inr hstray⟩
        · cases before with
          | nil =>
              obtain ⟨rfl, rfl⟩ := List.cons.inj hops
              obtain ⟨hnow, hlater⟩ := List.forall_mem_append.1 hall
              exact .inl ⟨hlater, hnow, hclaim, .inl ⟨mode, rfl, hname⟩⟩
          | cons first before =>
              obtain ⟨rfl, rfl⟩ := List.cons.inj hops
              exact .inr ⟨before, mode, after, rfl, hname, hclaim, hall⟩

/-- The mode in which a file is taken to be exists, and it claims the file's extension, except where a
mode without this extension has taken the place of the mode of this name that the file was taken to be
in, and no mode has claimed the extension since. -/
theorem detected_mode_claims (ops : List Operation) (file : Text) (name : String)
    (h : (({} : Registry).performAll ops).detect? file = some name) :
    ∃ ext mode, Text.claimedExtension? file = some ext ∧
      (({} : Registry).performAll ops).get? name = some mode ∧
        (ext ∉ mode.extensions ↔
          ∃ before replacing after, ops = before ++ .register replacing :: after ∧
            replacing.name = name ∧ (({} : Registry).performAll before).detect? file = some name ∧
              ∀ m ∈ (({} : Registry).performAll before).history (.register replacing :: after),
                ext ∉ m.extensions) := by
  have hnamed : ({} : Registry).Named := Reachable.empty.named
  have hgrounded : ({} : Registry).Grounded := by
    intro ext name hclaim
    cases hclaim
  rw [detect?_eq] at h
  obtain ⟨ext, hext, hclaim⟩ := Option.bind_eq_some_iff.1 h
  obtain ⟨mode, hmode⟩ := Option.isSome_iff_exists.1 (hgrounded.performAll ops ext name hclaim)
  refine ⟨ext, mode, hext, hmode, ?_⟩
  have hstray : ext ∉ mode.extensions ↔ (({} : Registry).performAll ops).Stray ext name := by
    simp [Stray, hclaim, hmode]
  have hempty : ¬({} : Registry).Stray ext name := by
    rintro ⟨hnone, _⟩
    cases hnone
  rw [hstray, stray_performAll hnamed]
  simp only [detect?_eq, hext, Option.bind_some, hempty, and_false, false_or]

/-- A mode to which settings have given back the extension that it was replaced without. -/
theorem detected_mode_claims_regained :
    let mode : Mode := { name := "m", label := "M", extensions := ["x"], engine := { name := "plain" } }
    let settings : Settings := { extensions := ⟨[("m", [".X"])]⟩ }
    let registry := ({} : Registry).performAll
      [.register mode, .register { mode with extensions := [] }, .applySettings settings]
    registry.detect? "dir/a.x".toList = some "m" ∧
      ∃ found, registry.get? "m" = some found ∧ "x" ∈ found.extensions := by
  intro mode settings registry
  have hdetect : registry.detect? "dir/a.x".toList = some "m" := by decide +kernel
  obtain ⟨ext, found, hext, hfound, hiff⟩ := detected_mode_claims _ _ _ hdetect
  obtain rfl : "x" = ext := by
    have hx : Text.claimedExtension? "dir/a.x".toList = some "x" := by decide +kernel
    exact Option.some.inj (hx.symm.trans hext)
  refine ⟨hdetect, found, hfound, ?_⟩
  refine Decidable.byContradiction fun hnot => ?_
  obtain ⟨before, replacing, after, hops, -, hearlier, hlater⟩ := hiff.1 hnot
  rcases before with _ | ⟨first, _ | ⟨second, before⟩⟩
  · exact absurd hearlier (by decide +kernel)
  · obtain ⟨rfl, hrest⟩ := List.cons.inj hops
    obtain ⟨hreplacing, rfl⟩ := List.cons.inj hrest
    obtain rfl := Operation.register.inj hreplacing
    exact hlater mode (by decide +kernel) (by decide)
  · rcases before with _ | ⟨third, before⟩ <;> simp at hops

/-- A file is still taken to be in a mode that has given up the file's extension. -/
theorem detected_mode_without_extension :
    let mode : Mode := { name := "m", label := "M", extensions := ["x"], engine := { name := "plain" } }
    let registry := ({} : Registry).performAll [.register mode, .register { mode with extensions := [] }]
    registry.detect? "a.x".toList = some "m" ∧ Text.claimedExtension? "a.x".toList = some "x" ∧
      (registry.get? "m").map Mode.extensions = some [] := by
  decide +kernel

end Registry

end Highlighter
