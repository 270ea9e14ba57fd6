import Highlighter.Proofs.Text.Reach

/-! Character boundaries: the bytes of a text at which it can be cut. -/
namespace Highlighter

namespace Text

/-- A character begins at the byte, or the text ends there. -/
def IsBoundary (text : Text) (n : Nat) : Prop :=
  ∃ pre post : Text, text = pre ++ post ∧ pre.byteLength = n

/-- Two bytes belong to one character. -/
def SameCharacter (text : Text) (p q : Nat) : Prop :=
  ∃ (pre : Text) (c : Char) (post : Text), text = pre ++ c :: post ∧
    (pre.byteLength ≤ p ∧ p < pre.byteLength + c.utf8Size) ∧
    (pre.byteLength ≤ q ∧ q < pre.byteLength + c.utf8Size)

theorem splitAt?_eq_some_iff {text pre post : Text} {n : Nat} :
    text.splitAt? n = some (pre, post) ↔ text = pre ++ post ∧ pre.byteLength = n := by
  constructor
  · intro h
    induction text generalizing n pre with
    | nil =>
        cases n with
        | zero =>
            obtain ⟨rfl, rfl⟩ : [] = pre ∧ [] = post := by simpa [splitAt?] using h
            exact ⟨rfl, rfl⟩
        | succ n => simp [splitAt?] at h
    | cons x text ih =>
        cases n with
        | zero =>
            obtain ⟨rfl, rfl⟩ : [] = pre ∧ x :: text = post := by simpa [splitAt?] using h
            exact ⟨rfl, rfl⟩
        | succ n =>
            rw [splitAt?] at h
            split at h
            · rename_i hle
              obtain ⟨⟨rest, post'⟩, hrest, heq⟩ := Option.map_eq_some_iff.1 h
              obtain ⟨rfl, rfl⟩ : x :: rest = pre ∧ post' = post := by simpa using heq
              obtain ⟨rfl, hlength⟩ := ih hrest
              refine ⟨rfl, ?_⟩
              rw [byteLength_cons, hlength]
              omega
            · cases h
  · rintro ⟨rfl, rfl⟩
    exact splitAt?_byteLength pre post

instance (text : Text) (n : Nat) : Decidable (text.IsBoundary n) :=
  decidable_of_iff ((text.splitAt? n).isSome = true) (by
    rw [Option.isSome_iff_exists]
    constructor
    · rintro ⟨⟨pre, post⟩, h⟩
      exact ⟨pre, post, splitAt?_eq_some_iff.1 h⟩
    · rintro ⟨pre, post, h⟩
      exact ⟨(pre, post), splitAt?_eq_some_iff.2 h⟩)

theorem isBoundary_zero (text : Text) : text.IsBoundary 0 := ⟨[], text, rfl, rfl⟩

theorem isBoundary_byteLength (text : Text) : text.IsBoundary text.byteLength :=
  ⟨text, [], by simp, rfl⟩

theorem IsBoundary.le_byteLength {text : Text} {n : Nat} (h : text.IsBoundary n) :
    n ≤ text.byteLength := by
  obtain ⟨pre, post, rfl, rfl⟩ := h
  simp

/-- The rest of a text can be cut where the text can. -/
theorem IsBoundary.drop {pre post : Text} {n : Nat} (h : (pre ++ post).IsBoundary n)
    (hle : pre.byteLength ≤ n) :
    ∃ mid rest, post = mid ++ rest ∧ (pre ++ mid).byteLength = n := by
  obtain ⟨before, after, heq, rfl⟩ := h
  rcases List.append_eq_append_iff.1 heq with ⟨mid, rfl, rfl⟩ | ⟨mid, rfl, rfl⟩
  · exact ⟨mid, after, rfl, rfl⟩
  · cases mid with
    | nil => exact ⟨[], post, by simp, by simp⟩
    | cons x mid =>
        have hx := x.utf8Size_pos
        simp only [byteLength_append, byteLength_cons] at hle
        omega

theorem IsBoundary.prepend {post : Text} {n : Nat} (h : post.IsBoundary n) (pre : Text) :
    (pre ++ post).IsBoundary (pre.byteLength + n) := by
  obtain ⟨mid, rest, rfl, rfl⟩ := h
  exact ⟨pre ++ mid, rest, by simp, by simp⟩

/-- No boundary lies inside a character. -/
theorem IsBoundary.outside {pre post : Text} {c : Char} {n : Nat}
    (h : (pre ++ c :: post).IsBoundary n) :
    n ≤ pre.byteLength ∨ pre.byteLength + c.utf8Size ≤ n := by
  by_cases hle : pre.byteLength ≤ n
  · obtain ⟨mid, rest, heq, rfl⟩ := h.drop hle
    cases mid with
    | nil => simp
    | cons x mid =>
        obtain ⟨rfl, _⟩ : c = x ∧ post = mid ++ rest := by simpa using heq
        simp only [byteLength_append, byteLength_cons]
        omega
  · exact .inl (by omega)

theorem IsBoundary.le_iff {text : Text} {n p q : Nat} (h : text.IsBoundary n)
    (hsame : text.SameCharacter p q) : n ≤ p ↔ n ≤ q := by
  obtain ⟨pre, c, post, rfl, hp, hq⟩ := hsame
  have := h.outside
  omega

/-- A byte of which the byte before belongs to another character is a boundary. -/
theorem isBoundary_of_not_same {text : Text} {n : Nat} (hle : n ≤ text.byteLength)
    (h : 0 < n → ¬ text.SameCharacter (n - 1) n) : text.IsBoundary n := by
  induction text generalizing n with
  | nil =>
      obtain rfl : n = 0 := by simpa using hle
      exact isBoundary_zero []
  | cons x text ih =>
      by_cases hzero : n = 0
      · rw [hzero]
        exact isBoundary_zero _
      · rw [byteLength_cons] at hle
        have hx : x.utf8Size ≤ n := by
          refine Nat.le_of_not_lt fun hlt => h (by omega) ⟨[], x, text, rfl, ?_, ?_⟩
          · simp only [byteLength_nil]
            omega
          · simp only [byteLength_nil]
            omega
        have hrest : IsBoundary text (n - x.utf8Size) := by
          refine ih (by omega) fun hpos hsame => h (by omega) ?_
          obtain ⟨pre, c, post, rfl, hp, hq⟩ := hsame
          refine ⟨x :: pre, c, post, rfl, ?_, ?_⟩
          · simp only [byteLength_cons]
            omega
          · simp only [byteLength_cons]
            omega
        have hcons := hrest.prepend [x]
        rwa [show byteLength [x] + (n - x.utf8Size) = n by simp; omega] at hcons

theorem slice?_byteLength (pre mid post : Text) :
    slice? (pre ++ (mid ++ post)) pre.byteLength (pre ++ mid).byteLength = some mid := by
  have hlength : (pre ++ mid).byteLength - pre.byteLength = mid.byteLength := by simp
  rw [slice?, if_pos (by simp), splitAt?_byteLength, Option.bind_some, hlength,
    splitAt?_byteLength, Option.map_some]

theorem exists_slice? {text : Text} {start stop : Nat} (hstart : text.IsBoundary start)
    (hstop : text.IsBoundary stop) (hle : start ≤ stop) : ∃ mid, text.slice? start stop = some mid := by
  obtain ⟨pre, post, rfl, rfl⟩ := hstart
  obtain ⟨mid, rest, rfl, rfl⟩ := hstop.drop hle
  exact ⟨mid, slice?_byteLength pre mid rest⟩

end Text

theorem Cursor.isBoundary_offset (c : Cursor) : c.text.IsBoundary c.offset :=
  ⟨c.before.reverse, c.rest, rfl, Text.byteLength_reverse _⟩

end Highlighter
