/-! Finite maps as lists of entries in the order of their keys. -/
namespace Highlighter

/-- A finite map; its entries stand in the order of their keys. -/
structure SortedMap (κ ν : Type) where
  entries : List (κ × ν) := []
deriving DecidableEq, Repr

namespace SortedMap

variable {κ ν : Type} [DecidableEq κ]

/-- The value of the first entry with a key. -/
def find? (key : κ) (entries : List (κ × ν)) : Option ν :=
  (entries.find? fun entry => entry.1 = key).map Prod.snd

/-- The entries with one more, in its place or instead of the one with its key. -/
def put [LT κ] [DecidableLT κ] (key : κ) (value : ν) : List (κ × ν) → List (κ × ν)
  | [] => [(key, value)]
  | entry :: entries =>
    if entry.1 = key then (key, value) :: entries
    else if key < entry.1 then (key, value) :: entry :: entries
    else entry :: put key value entries

def get? (map : SortedMap κ ν) (key : κ) : Option ν := find? key map.entries

def contains (map : SortedMap κ ν) (key : κ) : Bool := (map.get? key).isSome

def insert [LT κ] [DecidableLT κ] (map : SortedMap κ ν) (key : κ) (value : ν) : SortedMap κ ν :=
  ⟨put key value map.entries⟩

def erase (map : SortedMap κ ν) (key : κ) : SortedMap κ ν :=
  ⟨map.entries.filter fun entry => entry.1 ≠ key⟩

def keys (map : SortedMap κ ν) : List κ := map.entries.map Prod.fst

def size (map : SortedMap κ ν) : Nat := map.entries.length

theorem find?_put [LT κ] [DecidableLT κ] (key key' : κ) (value : ν) (entries : List (κ × ν)) :
    find? key' (put key value entries) = if key = key' then some value else find? key' entries := by
  induction entries with
  | nil => by_cases h : key = key' <;> simp [find?, put, h]
  | cons entry entries ih =>
    unfold put
    by_cases h : key = key'
    · subst h
      split
      · simp [find?]
      · split
        · simp [find?]
        · rename_i hne _
          simpa [find?, hne] using ih
    · split
      · rename_i heq
        have : entry.1 ≠ key' := fun e => h (heq ▸ e)
        simp [find?, h, this]
      · split
        · simp [find?, h]
        · by_cases he : entry.1 = key'
          · simp [find?, he]
          · simpa [find?, he, h] using ih

/-- Only the given key changes its value. -/
theorem get?_insert [LT κ] [DecidableLT κ] (map : SortedMap κ ν) (key key' : κ) (value : ν) :
    (map.insert key value).get? key' = if key = key' then some value else map.get? key' :=
  find?_put key key' value map.entries

theorem find?_filter_ne (key key' : κ) (entries : List (κ × ν)) :
    find? key' (entries.filter fun entry => entry.1 ≠ key) =
      if key = key' then none else find? key' entries := by
  induction entries with
  | nil => simp [find?]
  | cons entry entries ih =>
    by_cases h : entry.1 = key
    · rw [List.filter_cons_of_neg (by simp [h]), ih]
      split
      · rfl
      · rename_i hk
        simp [find?, h, hk]
    · rw [List.filter_cons_of_pos (by simp [h])]
      by_cases he : entry.1 = key'
      · have : key ≠ key' := fun e => h (he.trans e.symm)
        simp [find?, he, this]
      · simpa [find?, he] using ih

/-- Only the given key loses its value. -/
theorem get?_erase (map : SortedMap κ ν) (key key' : κ) :
    (map.erase key).get? key' = if key = key' then none else map.get? key' :=
  find?_filter_ne key key' map.entries

end SortedMap

end Highlighter
