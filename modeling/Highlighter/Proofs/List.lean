/-! Facts about lists on which several theories of the library rest. -/
namespace Highlighter

/-- Of two members of a list whose entries are related in order, one comes first. -/
theorem pairwise_cases {α : Type} {R : α → α → Prop} {xs : List α} (h : xs.Pairwise R) {a b : α}
    (ha : a ∈ xs) (hb : b ∈ xs) : a = b ∨ R a b ∨ R b a := by
  induction h with
  | nil => cases ha
  | cons hx _ ih =>
      rcases List.mem_cons.1 ha with rfl | ha' <;> rcases List.mem_cons.1 hb with rfl | hb'
      · exact .inl rfl
      · exact .inr (.inl (hx b hb'))
      · exact .inr (.inr (hx a ha'))
      · exact ih ha' hb'

/-- In a list in strict order, the last entry that passes a test is the greatest one. -/
theorem find?_reverse_eq_some_iff {α : Type} {R : α → α → Prop} (hR : ∀ a b, R a b → ¬R b a)
    {xs : List α} (h : xs.Pairwise R) {p : α → Bool} {a : α} :
    xs.reverse.find? p = some a ↔ a ∈ xs ∧ p a = true ∧ ∀ b ∈ xs, R a b → p b = false := by
  rw [List.find?_eq_some_iff_append]
  constructor
  · rintro ⟨hp, after, before, hsplit, hnot⟩
    obtain rfl : xs = before.reverse ++ a :: after.reverse := by
      rw [← List.reverse_reverse xs, hsplit]
      simp
    refine ⟨by simp, hp, fun b hb hab => ?_⟩
    rcases List.mem_append.1 hb with hbefore | hb'
    · exact absurd hab (hR b a ((List.pairwise_append.1 h).2.2 b hbefore a List.mem_cons_self))
    · rcases List.mem_cons.1 hb' with rfl | hafter
      · exact absurd hab (hR b b hab)
      · simpa using hnot b (List.mem_reverse.1 hafter)
  · rintro ⟨ha, hp, hlater⟩
    obtain ⟨before, after, rfl⟩ := List.append_of_mem ha
    refine ⟨hp, after.reverse, before.reverse, by simp, fun b hb => ?_⟩
    have hafter : b ∈ after := List.mem_reverse.1 hb
    have hab : R a b := (List.pairwise_cons.1 (List.pairwise_append.1 h).2.1).1 b hafter
    simp [hlater b (List.mem_append_right _ (List.mem_cons_of_mem _ hafter)) hab]

theorem findSome?_flatMap {α β γ : Type} (f : α → List β) (g : β → Option γ) (xs : List α) :
    (xs.flatMap f).findSome? g = xs.findSome? fun x => (f x).findSome? g := by
  induction xs with
  | nil => rfl
  | cons x xs ih =>
      rw [List.flatMap_cons, List.findSome?_append, List.findSome?_cons, ih]
      cases (f x).findSome? g <;> rfl

/-- The entries of a list of which a part is mapped. -/
theorem getElem?_splice {α : Type} (f : α → α) (xs : List α) {start stop : Nat} (h : start < stop)
    (pos : Nat) :
    (xs.take start ++ ((xs.take stop).drop start).map f ++ xs.drop stop)[pos]? =
      if start ≤ pos ∧ pos < stop then xs[pos]?.map f else xs[pos]? := by
  simp only [List.getElem?_append, List.length_append, List.length_take, List.length_map,
    List.length_drop, List.getElem?_take, List.getElem?_map, List.getElem?_drop]
  by_cases hlen : xs.length ≤ pos
  · have hnone : xs[pos]? = none := List.getElem?_eq_none hlen
    have hbeyond : xs[stop + (pos - (min start xs.length + (min stop xs.length - start)))]? = none :=
      List.getElem?_eq_none (by omega)
    rw [if_neg (by omega), hbeyond, hnone]
    simp
  · by_cases hstart : pos < start
    · rw [if_pos (by omega), if_pos (by omega),
        if_pos hstart, if_neg (by omega)]
    · by_cases hstop : pos < stop
      · rw [if_pos (by omega), if_neg (by omega),
          if_pos (by omega),
          show start + (pos - min start xs.length) = pos by omega,
          if_pos (by omega)]
      · rw [if_neg (by omega), if_neg (by omega),
          show stop + (pos - (min start xs.length + (min stop xs.length - start))) = pos by omega]

/-- A part of a list without an entry of the list lies on one side of the entry. -/
theorem part_cases {α : Type} {a b pre part post : List α} {x : α}
    (h : pre ++ (part ++ post) = a ++ x :: b) (hx : x ∉ part) :
    (∃ mid, a = pre ++ (part ++ mid) ∧ post = mid ++ x :: b) ∨
      ∃ mid, pre = a ++ x :: mid ∧ b = mid ++ (part ++ post) := by
  rcases List.append_eq_append_iff.1 h with ⟨mid, rfl, hrest⟩ | ⟨mid, rfl, hrest⟩
  · rcases List.append_eq_append_iff.1 hrest with ⟨more, rfl, rfl⟩ | ⟨more, rfl, hmore⟩
    · exact .inl ⟨more, rfl, rfl⟩
    · cases more with
      | nil => exact .inl ⟨[], by simp, hmore.symm⟩
      | cons y more =>
          obtain ⟨rfl, -⟩ : x = y ∧ b = more ++ post := by simpa using hmore
          simp at hx
  · cases mid with
    | nil =>
        cases part with
        | nil => exact .inl ⟨[], by simp, hrest.symm⟩
        | cons y part =>
            obtain ⟨rfl, -⟩ : x = y ∧ b = part ++ post := by simpa using hrest
            simp at hx
    | cons y mid =>
        obtain ⟨rfl, rfl⟩ : x = y ∧ b = mid ++ (part ++ post) := by simpa using hrest
        exact .inr ⟨mid, rfl, rfl⟩

end Highlighter
