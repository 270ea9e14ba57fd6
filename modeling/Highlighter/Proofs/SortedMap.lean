import Highlighter.SortedMap

/-!
Entries in the strict order of their keys. Look-up then tells everything about them, so a map that gets
an entry that it has already stays as it is.
-/
namespace Highlighter.SortedMap

variable {κ ν : Type}

theorem mem_of_find? [DecidableEq κ] {entries : List (κ × ν)} {key : κ} {value : ν}
    (h : find? key entries = some value) : (key, value) ∈ entries := by
  obtain ⟨entry, hentry, rfl⟩ := Option.map_eq_some_iff.1 h
  obtain rfl : entry.1 = key := by simpa using List.find?_some hentry
  exact List.mem_of_find?_eq_some hentry

variable [LT κ]

/-- The keys increase, so each of them stands once. -/
def InOrder (entries : List (κ × ν)) : Prop := entries.Pairwise fun a b => a.1 < b.1

def Sorted (map : SortedMap κ ν) : Prop := InOrder map.entries

theorem sorted_empty : ({} : SortedMap κ ν).Sorted := .nil

theorem InOrder.nodup [LE κ] [Std.LawfulOrderLT κ] {entries : List (κ × ν)} (h : InOrder entries) :
    entries.Nodup := by
  refine h.imp fun {a b} hlt heq => ?_
  rw [heq] at hlt
  exact Std.lt_irrefl hlt

variable [DecidableEq κ]

theorem mem_put [DecidableLT κ] {key : κ} {value : ν} {entry : κ × ν} {entries : List (κ × ν)}
    (h : entry ∈ put key value entries) : entry = (key, value) ∨ entry ∈ entries := by
  induction entries with
  | nil => exact .inl (List.mem_singleton.1 h)
  | cons first entries ih =>
      rw [put] at h
      split at h
      · exact (List.mem_cons.1 h).imp_right (List.mem_cons_of_mem _)
      · split at h
        · exact List.mem_cons.1 h
        · rcases List.mem_cons.1 h with rfl | hmem
          · exact .inr List.mem_cons_self
          · exact (ih hmem).imp_right (List.mem_cons_of_mem _)

/-- Look-up finds every entry. -/
theorem InOrder.find?_eq_some_iff [LE κ] [Std.LawfulOrderLT κ] {entries : List (κ × ν)}
    (h : InOrder entries) {key : κ} {value : ν} :
    find? key entries = some value ↔ (key, value) ∈ entries := by
  refine ⟨mem_of_find?, fun hmem => ?_⟩
  induction h with
  | nil => cases hmem
  | @cons first entries hfirst _ ih =>
      rcases List.mem_cons.1 hmem with rfl | hrest
      · simp [find?]
      · have hne : first.1 ≠ key := fun heq => Std.lt_irrefl (heq ▸ hfirst _ hrest)
        simpa [find?, hne] using ih hrest

variable [LE κ] [Std.IsLinearOrder κ] [Std.LawfulOrderLT κ] {entries entries' : List (κ × ν)}

theorem InOrder.put [DecidableLT κ] (h : InOrder entries) (key : κ) (value : ν) :
    InOrder (put key value entries) := by
  induction h with
  | nil => exact List.pairwise_singleton ..
  | @cons first entries hfirst hrest ih =>
      rw [SortedMap.put]
      split
      · rename_i heq
        exact .cons (fun entry hentry => heq ▸ hfirst entry hentry) hrest
      · rename_i hne
        split
        · rename_i hlt
          refine .cons (fun entry hentry => ?_) (.cons hfirst hrest)
          rcases List.mem_cons.1 hentry with rfl | hentry
          · exact hlt
          · exact Std.lt_trans hlt (hfirst entry hentry)
        · rename_i hnlt
          refine .cons (fun entry hentry => ?_) ih
          rcases mem_put hentry with rfl | hentry
          · exact (Std.lt_trichotomy first.1 key).resolve_right fun hor => hor.elim hne hnlt
          · exact hfirst entry hentry

/-- Entries in order are known by what look-up finds. -/
theorem InOrder.ext (h : InOrder entries) (h' : InOrder entries')
    (hfind : ∀ key, find? key entries = find? key entries') : entries = entries' := by
  have hmem : ∀ entry, entry ∈ entries ↔ entry ∈ entries' := fun entry => by
    rw [← h.find?_eq_some_iff, ← h'.find?_eq_some_iff, hfind]
  exact List.Perm.eq_of_pairwise (fun a b _ _ hab hba => absurd (Std.lt_trans hab hba) Std.lt_irrefl)
    h h' ((List.perm_ext_iff_of_nodup h.nodup h'.nodup).2 hmem)

variable {map map' : SortedMap κ ν}

theorem Sorted.insert [DecidableLT κ] (h : map.Sorted) (key : κ) (value : ν) :
    (map.insert key value).Sorted :=
  InOrder.put h key value

theorem Sorted.foldl_insert [DecidableLT κ] (h : map.Sorted) (keys : List κ) (value : ν) :
    (keys.foldl (fun map key => map.insert key value) map).Sorted := by
  induction keys generalizing map with
  | nil => exact h
  | cons key keys ih => exact ih (h.insert key value)

theorem Sorted.ext (h : map.Sorted) (h' : map'.Sorted) (hget : ∀ key, map.get? key = map'.get? key) :
    map = map' := by
  cases map
  cases map'
  exact congrArg SortedMap.mk (InOrder.ext h h' hget)

/-- An entry that is there already changes nothing. -/
theorem Sorted.insert_of_get? [DecidableLT κ] (h : map.Sorted) {key : κ} {value : ν}
    (hget : map.get? key = some value) : map.insert key value = map := by
  refine (h.insert key value).ext h fun key' => ?_
  rw [get?_insert]
  split
  · rename_i heq
    rw [← heq, hget]
  · rfl

end Highlighter.SortedMap
