import Highlighter.Proofs.Text.Reach

/-! Parts of a text, known by what stands before them: their bytes and their characters. -/
namespace Highlighter.Text

/-- The byte is one of the part. -/
def InPart (pre part : Text) (pos : Nat) : Prop :=
  pre.byteLength ≤ pos ∧ pos < (pre ++ part).byteLength

theorem byteLength_pos {t : Text} (h : t ≠ []) : 0 < t.byteLength := by
  cases t with
  | nil => exact absurd rfl h
  | cons x t =>
      have hx := x.utf8Size_pos
      rw [byteLength_cons]
      omega

/-- A text is cut in one way at a byte. -/
theorem eq_of_byteLength {pre pre' post post' : Text} (htext : pre ++ post = pre' ++ post')
    (hlength : pre.byteLength = pre'.byteLength) : pre = pre' ∧ post = post' := by
  have hsplit := splitAt?_byteLength pre post
  rw [htext, hlength, splitAt?_byteLength] at hsplit
  obtain ⟨rfl, rfl⟩ : pre' = pre ∧ post' = post := by simpa using hsplit
  exact ⟨rfl, rfl⟩

/-- Parts of a text that share a byte share a character. -/
theorem exists_mem_of_meet {pre part post pre' part' post' : Text}
    (htext : pre ++ (part ++ post) = pre' ++ (part' ++ post')) {pos : Nat}
    (hpos : InPart pre part pos) (hpos' : InPart pre' part' pos) : ∃ x ∈ part, x ∈ part' := by
  have hbegin : ∀ {mid s s' t t' : Text}, s ++ t = mid ++ (s' ++ t') → mid.byteLength < s.byteLength →
      s' ≠ [] → ∃ x ∈ s, x ∈ s' := by
    intro mid s s' t t' h hlt hne
    rcases List.append_eq_append_iff.1 h with ⟨more, rfl, -⟩ | ⟨more, rfl, hmore⟩
    · simp only [byteLength_append] at hlt
      omega
    · cases s' with
      | nil => exact absurd rfl hne
      | cons x s' =>
          cases more with
          | nil => simp at hlt
          | cons y more =>
              obtain ⟨rfl, -⟩ : x = y ∧ _ := by simpa using hmore
              exact ⟨x, by simp, by simp⟩
  simp only [InPart, byteLength_append] at hpos hpos'
  have hne : part ≠ [] := fun h => by
    rw [h, byteLength_nil] at hpos
    omega
  have hne' : part' ≠ [] := fun h => by
    rw [h, byteLength_nil] at hpos'
    omega
  rcases List.append_eq_append_iff.1 htext with ⟨mid, rfl, hrest⟩ | ⟨mid, rfl, hrest⟩
  · rw [byteLength_append] at hpos'
    exact hbegin hrest (by omega) hne'
  · rw [byteLength_append] at hpos
    obtain ⟨x, hx, hx'⟩ := hbegin hrest (by omega) hne
    exact ⟨x, hx', hx⟩

/-- What ends within a beginning of the text is a beginning of it. -/
theorem exists_of_le_byteLength {a b pre post : Text} (htext : a ++ b = pre ++ post)
    (hle : pre.byteLength ≤ a.byteLength) : ∃ mid, a = pre ++ mid ∧ post = mid ++ b := by
  rcases List.append_eq_append_iff.1 htext with ⟨mid, rfl, rfl⟩ | ⟨mid, rfl, rfl⟩
  · rw [byteLength_append] at hle
    cases mid with
    | nil => exact ⟨[], by simp, by simp⟩
    | cons x mid =>
        have hx := x.utf8Size_pos
        rw [byteLength_cons] at hle
        omega
  · exact ⟨mid, rfl, rfl⟩

end Highlighter.Text
