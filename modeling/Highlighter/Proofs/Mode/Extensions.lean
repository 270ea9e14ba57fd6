import Highlighter.Mode

/-!
The extensions of modes. They are kept in lower case, without dots in front, and each of them once.
-/
namespace Highlighter

/-! ## Dots and lower case -/

namespace Text

theorem lt_first_add_shift : ∀ range ∈ lowerMap, (46 : Int) < range.first + range.shift := by
  decide +kernel

theorem ofNat_ne_dot {n : Nat} (h : n ≠ 46) : Char.ofNat n ≠ '.' := by
  intro hdot
  have hcode : (Char.ofNat n).toNat = 46 := congrArg Char.toNat hdot
  by_cases hvalid : n.isValidChar
  · have hofNat : Char.ofNat n = Char.ofNatAux n hvalid := dif_pos hvalid
    rw [hofNat] at hcode
    exact h hcode
  · have hofNat : Char.ofNat n = '\x00' := dif_neg hvalid
    rw [hofNat] at hcode
    cases hcode

theorem lowerMap_apply_ne_dot {n : Nat} (h : n ≠ 46) : lowerMap.apply n ≠ 46 := by
  unfold CaseMap.apply
  split
  · rename_i range hfind
    have hrange := lt_first_add_shift range (List.mem_of_find?_eq_some hfind)
    have hmoves : range.first ≤ n := by
      have := List.find?_some hfind
      simp only [CaseRange.moves, Bool.and_eq_true, decide_eq_true_eq] at this
      exact this.1.1
    unfold CaseRange.target
    omega
  · exact h

theorem exists_lowerChar_eq_cons (before : Text) {c : Char} (h : c ≠ '.') (rest : Text) :
    ∃ d ds, lowerChar before c rest = d :: ds ∧ d ≠ '.' := by
  unfold lowerChar
  split
  · refine ⟨_, [], rfl, ?_⟩
    split <;> decide
  · split
    · exact ⟨'i', _, rfl, by decide⟩
    · have hcode : c.toNat ≠ 46 := fun hc => h (Char.toNat_inj.1 hc)
      exact ⟨_, [], rfl, ofNat_ne_dot (lowerMap_apply_ne_dot hcode)⟩

theorem head?_toLower_ne_dot {text : Text} (h : text.head? ≠ some '.') :
    (toLower text).head? ≠ some '.' := by
  cases text with
  | nil => exact h
  | cons c rest =>
      obtain ⟨d, ds, hchar, hd⟩ := exists_lowerChar_eq_cons [] (fun hc => h (congrArg some hc)) rest
      rw [toLower, lowerFrom, hchar]
      exact fun hdot => hd (Option.some.inj hdot)

end Text

namespace Mode

theorem head?_normalizeExtension (extension : String) :
    (normalizeExtension extension).toList.head? ≠ some '.' := by
  rw [normalizeExtension, String.toList_ofList]
  refine Text.head?_toLower_ne_dot fun hdot => ?_
  have := List.head?_dropWhile_not (· == '.') extension.toList
  rw [hdot] at this
  cases this

/-! ## More extensions -/

variable {mode : Mode}

theorem mem_addExtension_iff {new ext : String} :
    ext ∈ (mode.addExtension new).extensions ↔ ext ∈ mode.extensions ∨ ext = normalizeExtension new := by
  rw [addExtension]
  split
  · rename_i hmem
    exact ⟨.inl, fun h => h.elim id fun heq => heq ▸ hmem⟩
  · rw [List.mem_append, List.mem_singleton]

theorem mem_addExtensions_iff {new : List String} {ext : String} :
    ext ∈ (mode.addExtensions new).extensions ↔
      ext ∈ mode.extensions ∨ ext ∈ new.map normalizeExtension := by
  unfold addExtensions
  induction new generalizing mode with
  | nil => simp
  | cons e new ih => rw [List.foldl_cons, ih, mem_addExtension_iff, or_assoc, List.map_cons, List.mem_cons]

/-- Extensions that a mode has already change nothing. -/
theorem addExtensions_of_forall_mem {new : List String}
    (h : ∀ ext ∈ new.map normalizeExtension, ext ∈ mode.extensions) : mode.addExtensions new = mode := by
  unfold addExtensions
  induction new with
  | nil => rfl
  | cons e new ih =>
      obtain ⟨he, hnew⟩ := List.forall_mem_cons.1 (List.map_cons ▸ h)
      rw [List.foldl_cons, addExtension, if_pos he]
      exact ih hnew

/-- The extensions are different from each other, and none of them begins with a dot. -/
structure Tidy (mode : Mode) : Prop where
  nodup : mode.extensions.Nodup
  noDot : ∀ ext ∈ mode.extensions, ext.toList.head? ≠ some '.'

theorem Tidy.addExtension (h : mode.Tidy) (new : String) : (mode.addExtension new).Tidy where
  nodup := by
    rw [Mode.addExtension]
    split
    · exact h.nodup
    · rename_i hnew
      refine List.nodup_append.2 ⟨h.nodup, List.pairwise_singleton .., ?_⟩
      rintro ext hext _ hmem rfl
      exact hnew (List.mem_singleton.1 hmem ▸ hext)
  noDot ext hext := by
    rcases mem_addExtension_iff.1 hext with hold | rfl
    · exact h.noDot ext hold
    · exact head?_normalizeExtension new

theorem Tidy.addExtensions (h : mode.Tidy) (new : List String) : (mode.addExtensions new).Tidy := by
  unfold Mode.addExtensions
  induction new generalizing mode with
  | nil => exact h
  | cons e new ih => exact ih (h.addExtension e)

/-- The modes that are made by deriving one, adding extensions to it and changing its keys. -/
inductive Built : Mode → Prop
  | derive (parent : Option Mode) (name label : String) (engine : Engine) :
      Built (derive parent name label engine)
  | addExtension {mode : Mode} (h : Built mode) (ext : String) : Built (mode.addExtension ext)
  | bind {mode : Mode} (h : Built mode) (key : Char) (command : String) : Built (mode.bind key command)
  | clearKeys {mode : Mode} (h : Built mode) : Built mode.clearKeys

theorem Built.tidy (h : mode.Built) : mode.Tidy := by
  induction h with
  | derive => exact ⟨List.nodup_nil, fun ext hext => nomatch hext⟩
  | addExtension _ ext ih => exact ih.addExtension ext
  | bind _ _ _ ih => exact ⟨ih.nodup, ih.noDot⟩
  | clearKeys _ ih => exact ⟨ih.nodup, ih.noDot⟩

theorem Built.addExtensions (h : mode.Built) (new : List String) : (mode.addExtensions new).Built := by
  unfold Mode.addExtensions
  induction new generalizing mode with
  | nil => exact h
  | cons e new ih => exact ih (h.addExtension e)

theorem Built.bindAll (h : mode.Built) (keys : List (Char × String)) :
    (keys.foldl (fun mode key => mode.bind key.1 key.2) mode).Built := by
  induction keys generalizing mode with
  | nil => exact h
  | cons key keys ih => exact ih (h.bind key.1 key.2)

theorem built_ecmaScript : ecmaScript.Built :=
  ((Built.derive ..).addExtensions _).bindAll _

theorem built_actionScript (parent : Mode) : (actionScript parent).Built :=
  ((Built.derive ..).addExtensions _).clearKeys

end Mode

end Highlighter
