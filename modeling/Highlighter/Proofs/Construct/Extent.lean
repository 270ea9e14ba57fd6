import Highlighter.Construct
import Highlighter.Proofs.Pattern.Search

/-! Where openers and closers can lie: ahead of the search, in the text, between characters. -/
namespace Highlighter.Construct

variable {construct : Construct} {text : Text} {pos start stop : Nat}

theorem lt_of_findOpener (h : construct.findOpener text pos = some (start, stop)) :
    pos < text.byteLength := by
  unfold findOpener at h
  split at h
  · assumption
  · cases h

/-- An opener is a group of a match that the search finds. -/
theorem exists_match_of_findOpener (h : construct.findOpener text pos = some (start, stop)) :
    ∃ m index, pos ≤ m.first.offset ∧ m.first.text = text ∧
      construct.opener.matchAt m.first = some m ∧ m.group? index = some (start, stop) := by
  rw [findOpener, if_pos (lt_of_findOpener h)] at h
  obtain ⟨m, hsearch, hgroup⟩ := Option.bind_eq_some_iff.1 h
  obtain ⟨c, hseek, hsearch⟩ := Option.bind_eq_some_iff.1 hsearch
  obtain ⟨hreach, hle⟩ := Cursor.seek_reaches hseek
  obtain ⟨hfirst, hmatch⟩ := Pattern.search_eq_some hsearch
  have htext : m.first.text = text := by rw [hfirst.text_eq, Cursor.text_of_seek hseek]
  have hoffset := hfirst.offset_le
  rcases Option.or_eq_some_iff.1 hgroup with hg | ⟨_, hg⟩
  · exact ⟨m, 1, by omega, htext, hmatch, hg⟩
  · exact ⟨m, 0, by omega, htext, hmatch, hg⟩

theorem findOpener_le (h : construct.findOpener text pos = some (start, stop)) :
    pos ≤ start ∧ start ≤ stop := by
  obtain ⟨m, index, hpos, _, hmatch, hg⟩ := exists_match_of_findOpener h
  have hwithin := Match.group?_within hmatch hg
  omega

theorem findOpener_isBoundary (h : construct.findOpener text pos = some (start, stop)) :
    text.IsBoundary start ∧ text.IsBoundary stop := by
  obtain ⟨m, index, _, rfl, hmatch, hg⟩ := exists_match_of_findOpener h
  exact Match.group?_isBoundary hmatch hg

theorem closerFrom_isBoundary {closer : Pattern} {escape : Char} {fuel : Nat}
    (h : closerFrom closer escape text fuel pos = some stop) : text.IsBoundary stop := by
  induction fuel generalizing pos with
  | zero => cases h
  | succ fuel ih =>
      rw [closerFrom] at h
      split at h
      · cases h
      · rename_i m hfound
        split at h
        · obtain rfl : m.last.offset = stop := by simpa using h
          obtain ⟨c, hseek, hsearch⟩ := Option.bind_eq_some_iff.1 hfound
          obtain ⟨hfirst, hmatch⟩ := Pattern.search_eq_some hsearch
          have htext : m.last.text = text := by
            rw [(hfirst.trans (Match.first_reaches_last hmatch)).text_eq, Cursor.text_of_seek hseek]
          exact htext ▸ m.last.isBoundary_offset
        · exact ih h

theorem closerIn_isBoundary (h : construct.closerIn text = some stop) : text.IsBoundary stop := by
  unfold closerIn at h
  split at h
  · obtain ⟨m, hsearch, rfl⟩ := Option.map_eq_some_iff.1 h
    obtain ⟨hfirst, hmatch⟩ := Pattern.search_eq_some hsearch
    have htext : m.last.text = text :=
      (hfirst.trans (Match.first_reaches_last hmatch)).text_eq
    exact htext ▸ m.last.isBoundary_offset
  · exact closerFrom_isBoundary h

/-- A closer ends behind the beginning of the body, which is a boundary. -/
theorem findCloser_isBoundary (h : construct.findCloser text pos = some stop) :
    pos ≤ stop ∧ text.IsBoundary stop := by
  obtain ⟨⟨pre, body⟩, hsplit, hcloser⟩ := Option.bind_eq_some_iff.1 h
  obtain ⟨rfl, rfl⟩ := Text.splitAt?_eq_some_iff.1 hsplit
  obtain ⟨k, hk, rfl⟩ := Option.map_eq_some_iff.1 hcloser
  exact ⟨Nat.le_add_right .., (closerIn_isBoundary hk).prepend pre⟩

end Highlighter.Construct
