import Highlighter.Proofs.Pattern.Takes

/-!
No match is passed over. A search stops at the first place that has a way through the pattern, so what
the matches of a text leave out begins inside one of them.
-/
namespace Highlighter

namespace Cursor

variable {c d : Cursor}

theorem Passes.eq (h : c.Passes [] d) : c = d := ext_sides h.2.symm h.1

theorem Passes.ahead_eq {part : Text} (h : c.Passes part d) : c.ahead = part.length + d.ahead := by
  rw [c.ahead_eq, d.ahead_eq, h.1, List.length_append]

theorem Reaches.ahead_le (h : c.Reaches d) : d.ahead ≤ c.ahead := by
  obtain ⟨mid, hmid⟩ := h
  exact Passes.ahead_eq hmid ▸ Nat.le_add_left ..

/-- Of two places of a text, one comes after the other. -/
theorem reaches_total (htext : c.text = d.text) : c.Reaches d ∨ d.Reaches c := by
  rcases List.append_eq_append_iff.1 htext with ⟨mid, hbefore, hrest⟩ | ⟨mid, hbefore, hrest⟩
  · exact .inl ⟨mid, hrest, by simpa using congrArg List.reverse hbefore⟩
  · exact .inr ⟨mid, hrest, by simpa using congrArg List.reverse hbefore⟩

/-- What is not the place itself is reached over the next character. -/
theorem Reaches.next (h : c.Reaches d) (hne : c ≠ d) : ∃ x e, c.next? = some (x, e) ∧ e.Reaches d := by
  obtain ⟨mid, hrest, hbefore⟩ := h
  cases mid with
  | nil => exact absurd (ext_sides hbefore.symm hrest) hne
  | cons x mid =>
      exact ⟨x, _, next?_eq_some_iff.2 ⟨_, hrest, rfl⟩, mid, rfl, by simpa using hbefore⟩

end Cursor

/-- The place lies inside the match, with some of it on either side. -/
def Match.Crosses (m : Match) (c : Cursor) : Prop :=
  ∃ a b, a ≠ [] ∧ b ≠ [] ∧ m.first.Passes a c ∧ c.Passes b m.last

namespace Pattern

variable {p : Pattern} {c : Cursor} {m m' : Match}

/-- The search behind a match finds one further on, unless it finds one before, and it moves on. -/
theorem searchAfter_of_reaches (hcm : c.Reaches m.first) (hm : p.matchAt m.first = some m)
    (hne : m.last.ahead < m.first.ahead) :
    ∃ m', p.searchAfter c = some m' ∧ m'.first.Reaches m.first ∧ m'.last.ahead < c.ahead := by
  obtain ⟨m', hm', hreach⟩ := search_of_reaches hcm hm
  by_cases hmoves : m'.last.ahead < c.ahead
  · exact ⟨m', by simp [searchAfter, hm', hmoves], hreach, hmoves⟩
  · have hcne : c ≠ m.first := by
      rintro rfl
      obtain rfl : m = m' := Option.some.inj ((search_eq_of_matchAt hm).symm.trans hm')
      exact hmoves hne
    obtain ⟨x, d, hnext, hdm⟩ := hcm.next hcne
    obtain ⟨m'', hm'', hreach''⟩ := search_of_reaches hdm hm
    obtain ⟨hd, hmatch⟩ := search_eq_some hm''
    have hlast := (hd.trans (Match.first_reaches_last hmatch)).ahead_le
    have hstep := Cursor.ahead_of_next? hnext
    exact ⟨m'', by simp [searchAfter, hm', hmoves, hnext, hm''], hreach'', by omega⟩

/-- A match that begins no later is the match itself, or ends where it begins or before, or has its
beginning inside. -/
theorem eq_or_reaches_or_crosses (hreach : m'.first.Reaches m.first)
    (hm : p.matchAt m.first = some m) (hm' : p.matchAt m'.first = some m') :
    m' = m ∨ m'.last.Reaches m.first ∨ m'.Crosses m.first := by
  have htext : m'.last.text = m.first.text :=
    (Match.first_reaches_last hm').text_eq.trans hreach.text_eq.symm
  rcases Cursor.reaches_total htext with hafter | ⟨b, hb⟩
  · exact .inr (.inl hafter)
  · obtain ⟨a, ha⟩ := hreach
    by_cases hanil : a = []
    · rw [hanil] at ha
      have hsame : m'.first = m.first := Cursor.Passes.eq ha
      rw [hsame, hm] at hm'
      exact .inl (Option.some.inj hm').symm
    · by_cases hbnil : b = []
      · rw [hbnil] at hb
        exact .inr (.inl (Cursor.Passes.eq hb ▸ .refl _))
      · exact .inr (.inr ⟨a, b, hanil, hbnil, ha, hb⟩)

/-- A match that is covered behind the first one of a row is covered by the whole row. -/
theorem mem_cons_or_crosses {ms : List Match} (hreach : m'.first.Reaches m.first)
    (hm : p.matchAt m.first = some m) (hm' : p.matchAt m'.first = some m')
    (hbehind : m'.last.Reaches m.first → m ∈ ms ∨ ∃ m'' ∈ ms, m''.Crosses m.first) :
    m ∈ m' :: ms ∨ ∃ m'' ∈ m' :: ms, m''.Crosses m.first := by
  rcases eq_or_reaches_or_crosses hreach hm hm' with rfl | hafter | hcross
  · exact .inl (.head _)
  · rcases hbehind hafter with hmem | ⟨m'', hmem, hcross⟩
    · exact .inl (.tail _ hmem)
    · exact .inr ⟨m'', .tail _ hmem, hcross⟩
  · exact .inr ⟨m', .head _, hcross⟩

theorem mem_matchesAfter_or_crosses {bound : Nat} (hbound : c.ahead ≤ bound) (hcm : c.Reaches m.first)
    (hm : p.matchAt m.first = some m) (hne : m.last.ahead < m.first.ahead) :
    m ∈ p.matchesAfter bound c ∨ ∃ m' ∈ p.matchesAfter bound c, m'.Crosses m.first := by
  induction bound generalizing c with
  | zero =>
      have hahead := hcm.ahead_le
      omega
  | succ bound ih =>
      obtain ⟨m', hm', hreach, hmoves⟩ := searchAfter_of_reaches hcm hm hne
      rw [matchesAfter, hm']
      exact mem_cons_or_crosses hreach hm (searchAfter_eq_some hm').2 (ih (by omega))

/-- A match of some characters is one of the matches of the text, unless it begins inside one of them. -/
theorem mem_findAll_or_crosses (hm : p.matchAt m.first = some m)
    (hne : m.last.ahead < m.first.ahead) :
    m ∈ p.findAll m.first.text ∨ ∃ m' ∈ p.findAll m.first.text, m'.Crosses m.first := by
  obtain ⟨m', hm', hreach⟩ := search_of_reaches m.first.start_reaches hm
  rw [findAll, hm']
  exact mem_cons_or_crosses hreach hm (search_eq_some hm').2 fun hafter =>
    mem_matchesAfter_or_crosses (Nat.le_refl _) hafter hm hne

end Pattern

end Highlighter
