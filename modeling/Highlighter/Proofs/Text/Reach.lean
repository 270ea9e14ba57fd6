import Highlighter.Text.Cursor

/-! Going on in a text: later places, and the bytes at which they stand. -/
namespace Highlighter

namespace Cursor

/-- `d` is `c` or a later place of the same text. -/
def Reaches (c d : Cursor) : Prop :=
  ∃ mid, c.rest = mid ++ d.rest ∧ d.before = mid.reverse ++ c.before

@[simp] theorem between_before (before rest : Text) : (between before rest).before = before := rfl

@[simp] theorem between_rest (before rest : Text) : (between before rest).rest = rest := rfl

@[simp] theorem between_ahead (before rest : Text) : (between before rest).ahead = rest.length := rfl

@[simp] theorem next?_between_nil (before : Text) : (between before []).next? = none := rfl

@[simp] theorem next?_between_cons (before : Text) (x : Char) (rest : Text) :
    (between before (x :: rest)).next? = some (x, between (x :: before) rest) :=
  next?_eq_some_iff.2 ⟨rest, rfl, rfl⟩

theorem Reaches.refl (c : Cursor) : c.Reaches c := ⟨[], by simp⟩

theorem Reaches.trans {c d e : Cursor} (h : c.Reaches d) (h' : d.Reaches e) : c.Reaches e := by
  obtain ⟨mid, hr, hb⟩ := h
  obtain ⟨mid', hr', hb'⟩ := h'
  exact ⟨mid ++ mid', by simp [hr, hr'], by simp [hb, hb']⟩

theorem reaches_of_next? {c d : Cursor} {x : Char} (h : c.next? = some (x, d)) : c.Reaches d := by
  obtain ⟨rest, hr, rfl⟩ := next?_eq_some_iff.1 h
  exact ⟨[x], by simp [hr], by simp⟩

theorem Reaches.text_eq {c d : Cursor} (h : c.Reaches d) : d.text = c.text := by
  obtain ⟨mid, hr, hb⟩ := h
  simp [text, hr, hb]

theorem Reaches.offset_le {c d : Cursor} (h : c.Reaches d) : c.offset ≤ d.offset := by
  obtain ⟨mid, _, hb⟩ := h
  simp [offset, hb]

end Cursor

@[simp] theorem Text.byteLength_reverse (s : Text) : Text.byteLength s.reverse = s.byteLength := by
  induction s with
  | nil => rfl
  | cons c s ih => simp [ih, Nat.add_comm]

theorem Text.byteLength_cons_eq_succ (x : Char) (s : Text) :
    ∃ n, Text.byteLength (x :: s) = n + 1 ∧ x.utf8Size ≤ n + 1 ∧
      n + 1 - x.utf8Size = Text.byteLength s := by
  have hx := x.utf8Size_pos
  refine ⟨x.utf8Size - 1 + s.byteLength, ?_, ?_, ?_⟩
  · simp only [byteLength_cons]; omega
  · omega
  · omega

namespace Cursor

theorem offset_le_byteLength (c : Cursor) : c.offset ≤ c.text.byteLength := by
  simp [offset, text]

theorem skip_reaches {before rest : Text} {n : Nat} {c : Cursor} (h : skip before rest n = some c) :
    (between before rest).Reaches c ∧ before.byteLength + n ≤ c.offset := by
  induction rest generalizing before n with
  | nil =>
      cases n with
      | zero =>
          simp only [skip, Option.some.injEq] at h
          subst h
          exact ⟨.refl _, Nat.le_refl _⟩
      | succ n => simp [skip] at h
  | cons x rest ih =>
      cases n with
      | zero =>
          simp only [skip, Option.some.injEq] at h
          subst h
          exact ⟨.refl _, Nat.le_refl _⟩
      | succ n =>
          obtain ⟨hc, hn⟩ := ih (by simpa [skip] using h)
          refine ⟨.trans (reaches_of_next? (next?_between_cons ..)) hc, ?_⟩
          simp only [Text.byteLength_cons] at hn
          omega

theorem seek_reaches {text : Text} {n : Nat} {c : Cursor} (h : seek text n = some c) :
    (start text).Reaches c ∧ n ≤ c.offset := by
  simpa [start] using skip_reaches h

theorem skip_byteLength (before pre post : Text) :
    skip before (pre ++ post) pre.byteLength = some (between (pre.reverse ++ before) post) := by
  induction pre generalizing before with
  | nil => cases post <;> rfl
  | cons x pre ih =>
      obtain ⟨n, hn, _, hrest⟩ := Text.byteLength_cons_eq_succ x pre
      rw [hn, List.cons_append, skip, hrest, ih]
      simp

theorem seek_byteLength (pre post : Text) :
    seek (pre ++ post) pre.byteLength = some (between pre.reverse post) := by
  simpa [seek] using skip_byteLength [] pre post

theorem skip_eq_none {before rest : Text} {n : Nat} (h : rest.byteLength < n) :
    skip before rest n = none := by
  induction rest generalizing before n with
  | nil =>
      cases n with
      | zero => simp at h
      | succ n => rfl
  | cons x rest ih =>
      cases n with
      | zero => simp at h
      | succ n =>
          simp only [Text.byteLength_cons] at h
          exact ih (by omega)

theorem seek_eq_none {text : Text} {n : Nat} (h : text.byteLength < n) : seek text n = none :=
  skip_eq_none h

end Cursor

theorem Text.splitAt?_byteLength (pre post : Text) :
    Text.splitAt? (pre ++ post) pre.byteLength = some (pre, post) := by
  induction pre with
  | nil => cases post <;> rfl
  | cons x pre ih =>
      obtain ⟨n, hn, hle, hrest⟩ := byteLength_cons_eq_succ x pre
      rw [hn, List.cons_append, splitAt?, if_pos hle, hrest, ih]
      rfl

end Highlighter
