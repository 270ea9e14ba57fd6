import Highlighter.Proofs.List
import Highlighter.Proofs.Text.Reach

/-! Runs of characters of one kind: pieces of a text that cannot be made longer. -/
namespace Highlighter.Text

/-! What is said of the characters of a list is decided there, not by going through all characters. -/

instance (priority := high) (chars : List Char) (p : Char → Prop) [DecidablePred p] :
    Decidable (∀ x ∈ chars, p x) :=
  List.decidableBAll p chars

instance (priority := high) (char : Option Char) (p : Char → Prop) [DecidablePred p] :
    Decidable (∀ x ∈ char, p x) :=
  Option.decidableForallMem char

instance (priority := high) (char : Option Char) (p : Char → Prop) [DecidablePred p] :
    Decidable (∃ x ∈ char, p x) :=
  Option.decidableExistsMem char

/-- The middle of three parts of a text has only characters of a kind, and none of that kind stands
next to it. -/
structure IsRun (p : Char → Bool) (pre run post : Text) : Prop where
  inside : ∀ c ∈ run, p c = true
  before : ∀ c ∈ pre.getLast?, p c = false
  after : ∀ c ∈ post.head?, p c = false

theorem isRun_iff_all {p : Char → Bool} {pre run post : Text} :
    IsRun p pre run post ↔
      run.all p ∧ pre.getLast?.all (fun c => !p c) ∧ post.head?.all fun c => !p c := by
  simp only [List.all_eq_true, Option.all_eq_true, Bool.not_eq_true']
  exact ⟨fun h => ⟨h.inside, h.before, h.after⟩, fun h => ⟨h.1, h.2.1, h.2.2⟩⟩

instance (p : Char → Bool) (pre run post : Text) : Decidable (IsRun p pre run post) :=
  decidable_of_iff _ isRun_iff_all.symm

namespace IsRun

variable {p : Char → Bool} {pre run post pre' run' post' : Text}

theorem takeWhile_eq (h : IsRun p pre run post) : (run ++ post).takeWhile p = run := by
  rw [List.takeWhile_append_of_pos h.inside]
  cases post with
  | nil => simp
  | cons x post => simp [h.after x rfl]

/-- A run that begins behind another one's beginning, but not behind its end, begins where it does. -/
theorem eq_nil_of_append {mid : Text} (h : IsRun p pre run post)
    (h' : IsRun p (pre ++ mid) run' post') (hrest : run ++ post = mid ++ (run' ++ post'))
    (hmeet : (pre ++ mid).byteLength < (pre ++ run).byteLength) : mid = [] := by
  rcases List.eq_nil_or_concat mid with hnil | ⟨init, x, rfl⟩
  · exact hnil
  · have hx : p x = false := h'.before x (by simp)
    rcases List.append_eq_append_iff.1 hrest with ⟨more, hmid, -⟩ | ⟨more, rfl, -⟩
    · rw [hmid] at hmeet
      simp only [byteLength_append] at hmeet
      omega
    · have hinside : p x = true := h.inside x (by simp)
      rw [hx] at hinside
      cases hinside

/-- Two runs of one kind that share a byte are the same. -/
theorem unique (h : IsRun p pre run post) (h' : IsRun p pre' run' post')
    (htext : pre ++ (run ++ post) = pre' ++ (run' ++ post')) {pos : Nat}
    (hpos : pre.byteLength ≤ pos ∧ pos < (pre ++ run).byteLength)
    (hpos' : pre'.byteLength ≤ pos ∧ pos < (pre' ++ run').byteLength) : pre = pre' ∧ run = run' := by
  have hpre : pre = pre' := by
    rcases List.append_eq_append_iff.1 htext with ⟨mid, rfl, hrest⟩ | ⟨mid, rfl, hrest⟩
    · have hmid := h.eq_nil_of_append h' hrest (by omega)
      simp [hmid]
    · have hmid := h'.eq_nil_of_append h hrest (by omega)
      simp [hmid]
  subst hpre
  refine ⟨rfl, ?_⟩
  calc run = (run ++ post).takeWhile p := h.takeWhile_eq.symm
    _ = (run' ++ post').takeWhile p := by rw [List.append_cancel_left htext]
    _ = run' := h'.takeWhile_eq

/-- A run lies on one side of a character of another kind. -/
theorem side (h : IsRun p pre run post) (htext : pre ++ (run ++ post) = a ++ x :: b)
    (hx : p x = false) :
    (∃ mid, a = pre ++ (run ++ mid) ∧ post = mid ++ x :: b ∧ IsRun p pre run mid) ∨
      ∃ mid, pre = a ++ x :: mid ∧ b = mid ++ (run ++ post) ∧ IsRun p mid run post := by
  have hnot : x ∉ run := by
    intro hmem
    rw [h.inside x hmem] at hx
    cases hx
  rcases part_cases htext hnot with ⟨mid, ha, hpost⟩ | ⟨mid, hpre, hb⟩
  · refine .inl ⟨mid, ha, hpost, h.inside, h.before, fun c hc => h.after c ?_⟩
    cases mid with
    | nil => cases hc
    | cons y mid => simpa [hpost] using hc
  · refine .inr ⟨mid, hpre, hb, h.inside, fun c hc => h.before c ?_, h.after⟩
    rcases List.eq_nil_or_concat mid with rfl | ⟨init, y, rfl⟩
    · cases hc
    · have hassoc : a ++ x :: init.concat y = (a ++ x :: init) ++ [y] := by simp
      rw [hpre, hassoc, List.getLast?_concat]
      simpa using hc

/-- In a text of one kind the only run is the text. -/
theorem eq_of_all (h : IsRun p pre run post) {t : Text} (htext : pre ++ (run ++ post) = t)
    (ht : ∀ c ∈ t, p c = true) : pre = [] ∧ run = t ∧ post = [] := by
  subst htext
  have hpre : pre = [] := by
    rcases List.eq_nil_or_concat pre with hnil | ⟨init, y, rfl⟩
    · exact hnil
    · have hy := h.before y (by simp)
      rw [ht y (by simp)] at hy
      cases hy
  have hpost : post = [] := by
    cases post with
    | nil => rfl
    | cons y post =>
        have hy := h.after y rfl
        rw [ht y (by simp)] at hy
        cases hy
  simp [hpre, hpost]

/-- What begins with a text of one kind begins with a run of it that may be longer. -/
theorem exists_of_append (h : IsRun p [] run post) {word tail : Text} (htext : word ++ tail = run ++ post)
    (hword : ∀ c ∈ word, p c = true) : ∃ more, run = word ++ more ∧ tail = more ++ post := by
  rcases List.append_eq_append_iff.1 htext with ⟨more, rfl, rfl⟩ | ⟨more, rfl, rfl⟩
  · exact ⟨more, rfl, rfl⟩
  · cases more with
    | nil => exact ⟨[], by simp, by simp⟩
    | cons y more =>
        have hy := h.after y rfl
        rw [hword y (by simp)] at hy
        cases hy

end IsRun

/-- All runs of a kind are as they should be. -/
def EachRun (p : Char → Bool) (ok : Text → Prop) (t : Text) : Prop :=
  ∀ pre run post, t = pre ++ (run ++ post) → IsRun p pre run post → run ≠ [] → ok run

namespace EachRun

variable {p : Char → Bool} {ok : Text → Prop} {a b : Text} {x : Char}

theorem of_all (ha : ∀ c ∈ a, p c = true) (h : ok a) : EachRun p ok a := by
  intro pre run post htext hrun _
  rw [(hrun.eq_of_all htext.symm ha).2.1]
  exact h

theorem of_none (ha : ∀ c ∈ a, p c = false) : EachRun p ok a := by
  rintro pre run post rfl hrun hne
  obtain ⟨x, hx⟩ := List.exists_mem_of_ne_nil run hne
  have hnot := ha x (by simp [hx])
  rw [hrun.inside x hx] at hnot
  cases hnot

theorem append_cons (ha : EachRun p ok a) (hx : p x = false) (hb : EachRun p ok b) :
    EachRun p ok (a ++ x :: b) := by
  intro pre run post htext hrun hne
  rcases hrun.side htext.symm hx with ⟨mid, rfl, -, hside⟩ | ⟨mid, -, rfl, hside⟩
  · exact ha pre run mid rfl hside hne
  · exact hb mid run post rfl hside hne

end EachRun

end Highlighter.Text
