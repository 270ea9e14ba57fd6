import Highlighter.Proofs.Pattern.Extent
import Highlighter.Proofs.Text.Boundary

/-!
Searching. The search looks at one place after the other, so its match is a way through the pattern
at the first place that has one, and the matches of a text lie one after the other.
-/
namespace Highlighter

namespace Pattern

theorem search_between_nil (p : Pattern) (before : Text) :
    p.search (.between before []) = p.matchAt (.between before []) := rfl

theorem search_between_cons (p : Pattern) (before : Text) (x : Char) (rest : Text) :
    p.search (.between before (x :: rest)) =
      (p.matchAt (.between before (x :: rest))).or (p.search (.between (x :: before) rest)) := by
  have hn : (Cursor.between before (x :: rest)).next? = some (x, .between (x :: before) rest) :=
    Cursor.next?_between_cons ..
  rw [search, Cursor.between_ahead, List.length_cons, searchFrom, hn]
  cases p.matchAt (.between before (x :: rest)) <;> rfl

theorem search_eq_of_matchAt {p : Pattern} {c : Cursor} {m : Match} (h : p.matchAt c = some m) :
    p.search c = some m := by
  obtain ⟨before, rest, rfl⟩ : ∃ before rest, c = .between before rest :=
    ⟨c.before, c.rest, c.between_sides.symm⟩
  cases rest with
  | nil => rw [search_between_nil, h]
  | cons x rest => rw [search_between_cons, h, Option.some_or]

theorem first_of_matchAt {p : Pattern} {c : Cursor} {m : Match} (h : p.matchAt c = some m) :
    m.first = c := by
  rw [matchAt_eq] at h
  obtain ⟨r, -, rfl⟩ := Option.map_eq_some_iff.1 h
  rfl

theorem search_eq_some {p : Pattern} {c : Cursor} {m : Match} (h : p.search c = some m) :
    c.Reaches m.first ∧ p.matchAt m.first = some m := by
  have hmatch : ∀ {c : Cursor} {m : Match}, p.matchAt c = some m →
      c.Reaches m.first ∧ p.matchAt m.first = some m := by
    intro c m hm
    have hfirst := first_of_matchAt hm
    exact hfirst ▸ ⟨.refl _, hfirst ▸ hm⟩
  obtain ⟨before, rest, rfl⟩ : ∃ before rest, c = .between before rest :=
    ⟨c.before, c.rest, c.between_sides.symm⟩
  induction rest generalizing before with
  | nil => exact hmatch h
  | cons x rest ih =>
      rw [search_between_cons] at h
      rcases Option.or_eq_some_iff.1 h with hm | ⟨_, hs⟩
      · exact hmatch hm
      · obtain ⟨hreach, hm⟩ := ih (x :: before) hs
        exact ⟨.trans (Cursor.reaches_of_next? (Cursor.next?_between_cons ..)) hreach, hm⟩

/-- The search finds a match further on, unless it finds one before. -/
theorem search_of_reaches {p : Pattern} {c : Cursor} {m : Match} (hcm : c.Reaches m.first)
    (hm : p.matchAt m.first = some m) : ∃ m', p.search c = some m' ∧ m'.first.Reaches m.first := by
  obtain ⟨mid, hrest, hbefore⟩ := hcm
  induction mid generalizing c with
  | nil =>
      obtain rfl : c = m.first := Cursor.ext_sides hbefore.symm hrest
      exact ⟨m, search_eq_of_matchAt hm, .refl _⟩
  | cons x mid ih =>
      have hc : c = .between c.before (x :: (mid ++ m.first.rest)) := Cursor.ext_sides rfl hrest
      cases hat : p.matchAt c with
      | some m' =>
          refine ⟨m', search_eq_of_matchAt hat, ?_⟩
          rw [first_of_matchAt hat]
          exact ⟨x :: mid, hrest, hbefore⟩
      | none =>
          obtain ⟨m', hm', hreach⟩ :=
            @ih (.between (x :: c.before) (mid ++ m.first.rest)) rfl (by simpa using hbefore)
          rw [hc] at hat
          exact ⟨m', by rw [hc, search_between_cons, hat, Option.none_or, hm'], hreach⟩

theorem searchAfter_eq_some {p : Pattern} {c : Cursor} {m : Match} (h : p.searchAfter c = some m) :
    c.Reaches m.first ∧ p.matchAt m.first = some m := by
  unfold searchAfter at h
  split at h
  · rename_i m' hs
    split at h
    · exact search_eq_some (by rwa [hs])
    · split at h
      · rename_i d hn
        obtain ⟨hreach, hm⟩ := search_eq_some h
        exact ⟨.trans (Cursor.reaches_of_next? hn) hreach, hm⟩
      · cases h
  · cases h

end Pattern

namespace Match

theorem mem_ways {p : Pattern} {m : Match} (h : p.matchAt m.first = some m) :
    (m.last, m.captures) ∈ p.ways m.first [] := by
  rw [Pattern.matchAt_eq] at h
  obtain ⟨r, hr, hm⟩ := Option.map_eq_some_iff.1 h
  rw [← hm]
  exact List.mem_of_head? hr

theorem first_reaches_last {p : Pattern} {m : Match} (h : p.matchAt m.first = some m) :
    m.first.Reaches m.last :=
  (p.ways_onward _ _ _ (mem_ways h)).1

theorem capture_between {p : Pattern} {m : Match} (h : p.matchAt m.first = some m) :
    ∀ cap ∈ m.captures, cap.Between m.first m.last := by
  obtain ⟨_, new, hnew, hbetween, _⟩ := p.ways_onward _ _ _ (mem_ways h)
  simpa [show m.captures = new by simpa using hnew] using hbetween

theorem index_le_groupCount {p : Pattern} {m : Match} (h : p.matchAt m.first = some m) :
    ∀ cap ∈ m.captures, cap.index ≤ p.groupCount := by
  obtain ⟨new, hnew, hindex⟩ := p.ways_numbered (Nat.le_refl _) _ _ _ (mem_ways h)
  simpa [show m.captures = new by simpa using hnew] using hindex

theorem group?_within {p : Pattern} {m : Match} (h : p.matchAt m.first = some m) {index : Nat}
    {range : Nat × Nat} (hg : m.group? index = some range) :
    m.first.offset ≤ range.1 ∧ range.1 ≤ range.2 ∧ range.2 ≤ m.last.offset := by
  unfold group? at hg
  split at hg
  · cases hg
    exact ⟨Nat.le_refl _, (first_reaches_last h).offset_le, Nat.le_refl _⟩
  · obtain ⟨cap, hcap, rfl⟩ := Option.map_eq_some_iff.1 hg
    obtain ⟨h₁, h₂, h₃⟩ := capture_between h cap (List.mem_of_find?_eq_some hcap)
    exact ⟨h₁.offset_le, h₂.offset_le, h₃.offset_le⟩

theorem group?_isBoundary {p : Pattern} {m : Match} (h : p.matchAt m.first = some m) {index : Nat}
    {range : Nat × Nat} (hg : m.group? index = some range) :
    m.first.text.IsBoundary range.1 ∧ m.first.text.IsBoundary range.2 := by
  -- every place that a match passes is a place of one text
  have hplace : ∀ {c : Cursor}, m.first.Reaches c → m.first.text.IsBoundary c.offset := by
    intro c hc
    rw [← hc.text_eq]
    exact c.isBoundary_offset
  unfold group? at hg
  split at hg
  · cases hg
    exact ⟨hplace (.refl _), hplace (first_reaches_last h)⟩
  · obtain ⟨cap, hcap, rfl⟩ := Option.map_eq_some_iff.1 hg
    obtain ⟨hfirst, hlast, _⟩ := capture_between h cap (List.mem_of_find?_eq_some hcap)
    exact ⟨hplace hfirst, hplace (hfirst.trans hlast)⟩

/-- The bytes of two groups of a flat pattern lie one after the other. -/
theorem group?_apart {p : Pattern} (hp : p.isFlat = true) {m : Match} (h : p.matchAt m.first = some m)
    {i j : Nat} (hij : i ≠ j) (hi : i ≠ 0) (hj : j ≠ 0) {r r' : Nat × Nat}
    (hr : m.group? i = some r) (hr' : m.group? j = some r') : r.2 ≤ r'.1 ∨ r'.2 ≤ r.1 := by
  obtain ⟨_, new, hnew, _, hturn⟩ := p.ways_inTurn hp _ _ _ (mem_ways h)
  rw [List.append_nil] at hnew
  change m.captures = new at hnew
  subst hnew
  simp only [group?, hi, hj, ↓reduceIte] at hr hr'
  obtain ⟨cap, hcap, rfl⟩ := Option.map_eq_some_iff.1 hr
  obtain ⟨cap', hcap', rfl⟩ := Option.map_eq_some_iff.1 hr'
  rcases pairwise_cases hturn (List.mem_of_find?_eq_some hcap) (List.mem_of_find?_eq_some hcap')
    with rfl | hlater | hearlier
  · have h₁ := List.find?_some hcap
    have h₂ := List.find?_some hcap'
    simp only [beq_iff_eq] at h₁ h₂
    exact absurd (h₁.symm.trans h₂) hij
  · exact .inr hlater.offset_le
  · exact .inl hearlier.offset_le

end Match

namespace Pattern

/-- Matches in a row: each of them is found where it starts, behind the one before it. -/
def InARow (p : Pattern) (c : Cursor) (ms : List Match) : Prop :=
  (∀ m ∈ ms, c.Reaches m.first ∧ p.matchAt m.first = some m) ∧
    ms.Pairwise fun m m' => m.last.Reaches m'.first

theorem inARow_nil {p : Pattern} {c : Cursor} : p.InARow c [] := ⟨by simp, .nil⟩

theorem InARow.cons {p : Pattern} {c : Cursor} {m : Match} {ms : List Match}
    (hreach : c.Reaches m.first) (hmatch : p.matchAt m.first = some m) (h : p.InARow m.last ms) :
    p.InARow c (m :: ms) := by
  refine ⟨fun m' hm' => ?_, List.pairwise_cons.2 ⟨fun m' hm' => (h.1 m' hm').1, h.2⟩⟩
  rcases List.mem_cons.1 hm' with rfl | hm'
  · exact ⟨hreach, hmatch⟩
  · obtain ⟨hreach', hmatch'⟩ := h.1 m' hm'
    exact ⟨(hreach.trans (Match.first_reaches_last hmatch)).trans hreach', hmatch'⟩

theorem inARow_matchesAfter (p : Pattern) (bound : Nat) (c : Cursor) :
    p.InARow c (p.matchesAfter bound c) := by
  induction bound generalizing c with
  | zero => exact inARow_nil
  | succ bound ih =>
      unfold matchesAfter
      split
      · rename_i m hm
        obtain ⟨hreach, hmatch⟩ := searchAfter_eq_some hm
        exact .cons hreach hmatch (ih m.last)
      · exact inARow_nil

theorem inARow_findAll (p : Pattern) (text : Text) : p.InARow (.start text) (p.findAll text) := by
  unfold findAll
  split
  · rename_i m hm
    obtain ⟨hreach, hmatch⟩ := search_eq_some hm
    exact .cons hreach hmatch (p.inARow_matchesAfter m.last.ahead m.last)
  · exact inARow_nil

theorem matchAt_of_mem_findAll {p : Pattern} {text : Text} {m : Match} (h : m ∈ p.findAll text) :
    p.matchAt m.first = some m :=
  ((p.inARow_findAll text).1 m h).2

theorem text_of_mem_findAll {p : Pattern} {text : Text} {m : Match} (h : m ∈ p.findAll text) :
    m.first.text = text := by
  simpa using ((p.inARow_findAll text).1 m h).1.text_eq

theorem offset_le_of_mem_findAll {p : Pattern} {text : Text} {m : Match} (h : m ∈ p.findAll text) :
    m.last.offset ≤ text.byteLength := by
  have htext : m.last.text = text := by
    rw [(Match.first_reaches_last (matchAt_of_mem_findAll h)).text_eq, text_of_mem_findAll h]
  simpa [htext] using m.last.offset_le_byteLength

/-- Of two matches of a text, one ends before the other one starts. -/
theorem findAll_apart {p : Pattern} {text : Text} {m m' : Match} (h : m ∈ p.findAll text)
    (h' : m' ∈ p.findAll text) (hne : m ≠ m') :
    m.last.offset ≤ m'.first.offset ∨ m'.last.offset ≤ m.first.offset := by
  rcases pairwise_cases (p.inARow_findAll text).2 h h' with heq | hlt | hlt
  · exact absurd heq hne
  · exact .inl hlt.offset_le
  · exact .inr hlt.offset_le

end Pattern

end Highlighter
