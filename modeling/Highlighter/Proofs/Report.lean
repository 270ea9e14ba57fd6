import Highlighter.Proofs.Output
import Highlighter.Script.ActionScript

/-!
Reports as data. An entry can be read back, so a report tells its spans: each with its place, its category
and its text. In a line of printable ASCII, the columns of a span are its bytes, counted from 1.
-/
namespace Highlighter

/-! ## Parts of a line -/

namespace Text

theorem slice?_eq_some_iff {text part : Text} {start stop : Nat} :
    text.slice? start stop = some part ↔
      ∃ pre post, text = pre ++ (part ++ post) ∧ pre.byteLength = start ∧
        (pre ++ part).byteLength = stop := by
  constructor
  · intro h
    unfold slice? at h
    split at h
    · rename_i hle
      obtain ⟨⟨pre, rest⟩, hfirst, hsecond⟩ := Option.bind_eq_some_iff.1 h
      obtain ⟨⟨body, post⟩, hbody, rfl⟩ := Option.map_eq_some_iff.1 hsecond
      obtain ⟨rfl, rfl⟩ := splitAt?_eq_some_iff.1 hfirst
      obtain ⟨rfl, hlength⟩ := splitAt?_eq_some_iff.1 hbody
      refine ⟨pre, post, rfl, rfl, ?_⟩
      rw [byteLength_append, hlength]
      omega
    · cases h
  · rintro ⟨pre, post, rfl, rfl, rfl⟩
    exact slice?_byteLength pre part post

/-- The part between two bytes, or nothing if there is none. -/
def part (text : Text) (start stop : Nat) : Text := (text.slice? start stop).getD []

theorem part_byteLength (pre mid post : Text) :
    part (pre ++ (mid ++ post)) pre.byteLength (pre ++ mid).byteLength = mid := by
  rw [part, slice?_byteLength]
  rfl

theorem part_zero (pre post : Text) : part (pre ++ post) 0 pre.byteLength = pre :=
  part_byteLength [] pre post

theorem slice?_eq_part {text : Text} {start stop : Nat} (hstart : text.IsBoundary start)
    (hstop : text.IsBoundary stop) (hle : start ≤ stop) :
    text.slice? start stop = some (text.part start stop) := by
  obtain ⟨mid, hmid⟩ := exists_slice? hstart hstop hle
  rw [part, hmid, Option.getD_some]

/-- Characters from the space to the tilde: they take one byte and one column each. -/
def Printable (text : Text) : Prop := ∀ c ∈ text, ' ' ≤ c ∧ c ≤ '~'

instance (text : Text) : Decidable text.Printable :=
  inferInstanceAs (Decidable (∀ c ∈ text, _))

theorem utf8Size_of_le {c : Char} (h : c ≤ '~') : c.utf8Size = 1 :=
  Char.utf8Size_eq_one_iff.2 (UInt32.le_trans (show c.val ≤ 126 from h) (by decide))

theorem columnsPlain_of_le {c : Char} (h : ' ' ≤ c ∧ c ≤ '~') : columnsPlain c = (1, .other) := by
  have hline : c ≠ '\n' := by
    rintro rfl
    exact absurd h.1 (by decide)
  have hval : c.val ≤ 0xa0 := UInt32.le_trans (show c.val ≤ 126 from h.2) (by decide)
  rw [columnsPlain, if_neg hline, if_pos hval]

theorem Printable.byteLength_eq {text : Text} (h : text.Printable) : text.byteLength = text.length := by
  induction text with
  | nil => rfl
  | cons c text ih =>
      obtain ⟨hc, htext⟩ := List.forall_mem_cons.1 h
      rw [byteLength_cons, ih htext, utf8Size_of_le hc.2, List.length_cons, Nat.add_comm]

theorem Printable.measure_eq {text : Text} (h : text.Printable) : measure text = (text.length, .other) := by
  induction text with
  | nil => rfl
  | cons c text ih =>
      obtain ⟨hc, htext⟩ := List.forall_mem_cons.1 h
      rw [measure, ih htext]
      dsimp only
      rw [columnsBefore, columnsPlain_of_le hc, List.length_cons, Nat.add_comm]

theorem Printable.columns_eq {text : Text} (h : text.Printable) : text.columns = text.byteLength := by
  rw [columns, h.measure_eq, h.byteLength_eq]

end Text

/-- The span begins and ends between characters of the text, and not before its beginning. -/
def Span.IsPart (span : Span) (text : Text) : Prop :=
  span.start ≤ span.stop ∧ text.IsBoundary span.start ∧ text.IsBoundary span.stop

instance (span : Span) (text : Text) : Decidable (span.IsPart text) :=
  inferInstanceAs (Decidable (_ ∧ _))

/-- The characters in front of a span and those in it. -/
theorem Span.IsPart.exists_parts {span : Span} {text : Text} (h : span.IsPart text) :
    ∃ pre mid post, text = pre ++ (mid ++ post) ∧ pre.byteLength = span.start ∧
      (pre ++ mid).byteLength = span.stop := by
  obtain ⟨hle, hstart, hstop⟩ := h
  obtain ⟨mid, hmid⟩ := Text.exists_slice? hstart hstop hle
  obtain ⟨pre, post, hparts⟩ := Text.slice?_eq_some_iff.1 hmid
  exact ⟨pre, mid, post, hparts⟩

theorem Span.isPart_of_slice? {span : Span} {text part : Text}
    (h : text.slice? span.start span.stop = some part) : span.IsPart text := by
  obtain ⟨pre, post, rfl, hstart, hstop⟩ := Text.slice?_eq_some_iff.1 h
  refine ⟨?_, ⟨pre, part ++ post, rfl, hstart⟩, ⟨pre ++ part, post, by simp, hstop⟩⟩
  rw [← hstart, ← hstop, Text.byteLength_append]
  exact Nat.le_add_right ..

namespace Report

/-! ## Entries -/

/-- What an entry of a report tells. -/
structure Entry where
  line : Nat
  first : Nat
  last : Nat
  category : Category
  body : Text
deriving DecidableEq, Repr

namespace Entry

/-- The entry of a span: its line and columns counted from 1, its category and its text. -/
def ofSpan (number : Nat) (text : Text) (span : Span) : Entry where
  line := number + 1
  first := (text.part 0 span.start).columns + 1
  last := (text.part 0 span.start).columns + max (text.part span.start span.stop).columns 1
  category := span.category
  body := text.part span.start span.stop

def written (entry : Entry) : String :=
  toString entry.line ++ ":" ++ toString entry.first ++ "-" ++ toString entry.last ++ " " ++
    entry.category.name ++ " " ++ String.ofList entry.body

/-- A number up to a mark, and the text behind the mark. -/
def readNumber? (mark : Char) (text : Text) : Option (Nat × Text) :=
  match text.dropWhile Char.isDigit with
  | [] => none
  | c :: rest =>
    if c = mark then some (Nat.ofDigitChars 10 (text.takeWhile Char.isDigit) 0, rest) else none

/-- A category by its name, up to a space, and the text behind the space. -/
def readCategory? (text : Text) : Option (Category × Text) :=
  (Category.all.find? fun category => category.name.toList = text.takeWhile (· != ' ')).map fun category =>
    (category, (text.dropWhile (· != ' ')).drop 1)

/-- The entry that is written in a text. -/
def read? (text : Text) : Option Entry := do
  let (line, rest) ← readNumber? ':' text
  let (first, rest) ← readNumber? '-' rest
  let (last, rest) ← readNumber? ' ' rest
  let (category, body) ← readCategory? rest
  return ⟨line, first, last, category, body⟩

theorem readNumber?_toString (n : Nat) {mark : Char} (hmark : mark.isDigit = false) (rest : Text) :
    readNumber? mark ((toString n).toList ++ mark :: rest) = some (n, rest) := by
  have hdigits : ∀ c ∈ Nat.toDigits 10 n, c.isDigit = true := fun c hc =>
    Nat.isDigit_of_mem_toDigits (by decide) (by decide) hc
  rw [readNumber?, Nat.toString_eq_repr, Nat.toList_repr, List.dropWhile_append_of_pos hdigits,
    List.takeWhile_append_of_pos hdigits, List.dropWhile_cons_of_neg (by simp [hmark]),
    List.takeWhile_cons_of_neg (by simp [hmark]), List.append_nil, Nat.ofDigitChars_ten_toDigits]
  exact if_pos rfl

theorem readCategory?_name (category : Category) (rest : Text) :
    readCategory? (category.name.toList ++ ' ' :: rest) = some (category, rest) := by
  have hname : ∀ c ∈ category.name.toList, (c != ' ') = true := by cases category <;> decide
  have hfind : (Category.all.find? fun other => other.name.toList = category.name.toList) =
      some category := by cases category <;> decide
  rw [readCategory?, List.dropWhile_append_of_pos hname, List.takeWhile_append_of_pos hname,
    List.dropWhile_cons_of_neg (by simp), List.takeWhile_cons_of_neg (by simp), List.append_nil, hfind]
  rfl

theorem read?_written (entry : Entry) : read? entry.written.toList = some entry := by
  have htext : entry.written.toList = (toString entry.line).toList ++ ':' ::
      ((toString entry.first).toList ++ '-' :: ((toString entry.last).toList ++ ' ' ::
        (entry.category.name.toList ++ ' ' :: entry.body))) := by
    simp [written]
  simp (disch := decide) only [htext, read?, Option.bind_eq_bind, Option.bind_some,
    readNumber?_toString, readCategory?_name]
  rfl

/-- The span of an entry, if a column takes one byte. -/
def span (entry : Entry) : Span :=
  ⟨entry.first - 1, entry.first - 1 + entry.body.byteLength, entry.category⟩

section

variable {number : Nat} {text : Text} {span : Span}

theorem slice?_ofSpan (h : span.IsPart text) :
    text.slice? span.start span.stop = some (ofSpan number text span).body :=
  Text.slice?_eq_part h.2.1 h.2.2 h.1

/-- In printable text, the columns in front of a span and in it are its bytes. -/
theorem columns_of_isPart (htext : text.Printable) (h : span.IsPart text) :
    (text.part 0 span.start).columns = span.start ∧
      (text.part span.start span.stop).byteLength = span.stop - span.start ∧
      (text.part span.start span.stop).columns = span.stop - span.start := by
  obtain ⟨pre, mid, post, rfl, hstart, hstop⟩ := h.exists_parts
  have hpre : pre.Printable := fun c hc => htext c (List.mem_append_left _ hc)
  have hmid : mid.Printable := fun c hc =>
    htext c (List.mem_append_right _ (List.mem_append_left _ hc))
  rw [← hstart, ← hstop, Text.part_zero, Text.part_byteLength, hpre.columns_eq, hmid.columns_eq,
    Text.byteLength_append, Nat.add_sub_cancel_left]
  exact ⟨rfl, rfl, rfl⟩

/-- The bytes of a span in printable text are columns, counted from 1. -/
theorem columns_ofSpan (htext : text.Printable) (h : span.IsPart text) (hlt : span.start < span.stop) :
    (ofSpan number text span).first = span.start + 1 ∧ (ofSpan number text span).last = span.stop := by
  obtain ⟨hbefore, -, hbody⟩ := columns_of_isPart htext h
  have hlast : span.start + max (span.stop - span.start) 1 = span.stop := by omega
  rw [ofSpan, hbefore, hbody]
  exact ⟨rfl, hlast⟩

theorem span_ofSpan (htext : text.Printable) (h : span.IsPart text) :
    (ofSpan number text span).span = span := by
  obtain ⟨hbefore, hbody, -⟩ := columns_of_isPart htext h
  simp only [Entry.span, ofSpan, hbefore, hbody, Nat.add_sub_cancel, Nat.add_sub_cancel' h.1]

end

end Entry

/-! ## Reports -/

variable {number : Nat} {text : Text}

theorem describe?_eq (number : Nat) (text : Text) (span : Span) :
    describe? number text span =
      if span.IsPart text then some (Entry.ofSpan number text span).written else none := by
  by_cases h : span.IsPart text
  · have hlast : ∀ n m, n + 1 + max m 1 - 1 = n + max m 1 := by omega
    rw [if_pos h, describe?, Text.slice?_eq_part (Text.isBoundary_zero text) h.2.1 (Nat.zero_le _),
      Text.slice?_eq_part h.2.1 h.2.2 h.1]
    simp only [Option.bind_eq_bind, Option.bind_some, hlast]
    rfl
  · rw [if_neg h]
    refine Option.eq_none_iff_forall_ne_some.2 fun entry hentry => h ?_
    obtain ⟨before, -, hrest⟩ := Option.bind_eq_some_iff.1 hentry
    obtain ⟨body, hbody, -⟩ := Option.bind_eq_some_iff.1 hrest
    exact Span.isPart_of_slice? hbody

/-- A report leaves out the spans that are no part of the line, and no others. -/
theorem entries_eq (number : Nat) (text : Text) (spans : List Span) :
    entries number text spans =
      (spans.filter (·.IsPart text)).map fun span => (Entry.ofSpan number text span).written := by
  induction spans with
  | nil => rfl
  | cons span spans ih =>
      by_cases h : span.IsPart text
      · rw [entries, List.filterMap_cons_some ((describe?_eq ..).trans (if_pos h)),
          List.filter_cons_of_pos (by simpa using h), List.map_cons, ← ih]
        rfl
      · rw [entries, List.filterMap_cons_none ((describe?_eq ..).trans (if_neg h)),
          List.filter_cons_of_neg (by simpa using h), ← ih]
        rfl

/-- The span that an entry of a report tells, if a column takes one byte. -/
def span? (entry : String) : Option Span := (Entry.read? entry.toList).map Entry.span

theorem span?_written (entry : Entry) : span? entry.written = some entry.span := by
  rw [span?, Entry.read?_written, Option.map_some]

/-- The report of a printable line tells every span that is a part of the line. -/
theorem map_span?_entries (number : Nat) (htext : text.Printable) (spans : List Span) :
    (entries number text spans).map span? = (spans.filter (·.IsPart text)).map some := by
  rw [entries_eq, List.map_map]
  refine List.map_congr_left fun span hspan => ?_
  have h : span.IsPart text := by simpa using (List.mem_filter.1 hspan).2
  rw [Function.comp_apply, span?_written, Entry.span_ofSpan htext h]

/-- No two lists of parts have the same report, not even in different lines. -/
theorem filter_isPart_eq_of_entries_eq {other : Text} {line : Nat} {spans spans' : List Span}
    (htext : text.Printable) (hother : other.Printable)
    (h : entries number text spans = entries line other spans') :
    spans.filter (·.IsPart text) = spans'.filter (·.IsPart other) := by
  have htold := congrArg (List.map span?) h
  rw [map_span?_entries number htext, map_span?_entries line hother] at htold
  exact (List.map_inj_right fun _ _ => Option.some.inj).1 htold

/-! ## Highlighted lines -/

section

variable (engine : Engine) (state : LineState)

theorem isPart_of_mem_highlightLine {span : Span}
    (h : span ∈ (engine.highlightLine text state).spans) : span.IsPart text :=
  ⟨Nat.le_of_lt (engine.within_of_mem_highlightLine text state h).1,
    engine.isBoundary_of_mem_highlightLine text state h⟩

theorem filter_isPart_highlightLine :
    (engine.highlightLine text state).spans.filter (·.IsPart text) =
      (engine.highlightLine text state).spans :=
  List.filter_eq_self.2 fun _ h => decide_eq_true (isPart_of_mem_highlightLine engine state h)

theorem columns_of_mem_highlightLine (number : Nat) (htext : text.Printable) {span : Span}
    (h : span ∈ (engine.highlightLine text state).spans) :
    span.start < span.stop ∧ (Entry.ofSpan number text span).first = span.start + 1 ∧
      (Entry.ofSpan number text span).last = span.stop := by
  have hlt := (engine.within_of_mem_highlightLine text state h).1
  exact ⟨hlt, Entry.columns_ofSpan htext (isPart_of_mem_highlightLine engine state h) hlt⟩

theorem pairwise_columns_highlightLine (number : Nat) (htext : text.Printable) :
    (engine.highlightLine text state).spans.Pairwise fun a b =>
      (Entry.ofSpan number text a).last < (Entry.ofSpan number text b).first := by
  have hspans : (engine.highlightLine text state).spans.Pairwise Span.Apart := by
    rw [Engine.spans_highlightLine]
    exact Markup.pairwise_spans _
  refine hspans.imp_of_mem fun ha hb hapart => ?_
  obtain ⟨-, -, hlast⟩ := columns_of_mem_highlightLine engine state number htext ha
  obtain ⟨-, hfirst, -⟩ := columns_of_mem_highlightLine engine state number htext hb
  rw [hlast, hfirst]
  exact Nat.lt_succ_of_le hapart.le

end

/-- A report of a highlighted line has an entry for each span, in order, with its category and its text.
If the line is printable, the columns of an entry are the bytes of its span, the spans can be read from
the report, and no other list of parts, be it of another line, has this report. Of any other spans, a
report has the parts of the line. -/
theorem entries_faithful (engine : Engine) (text : Text) (state : LineState) (number : Nat) :
    let spans := (engine.highlightLine text state).spans
    entries number text spans = spans.map (fun span => (Entry.ofSpan number text span).written) ∧
    (∀ span ∈ spans, (Entry.ofSpan number text span).line = number + 1 ∧
      (Entry.ofSpan number text span).category = span.category ∧
      text.slice? span.start span.stop = some (Entry.ofSpan number text span).body) ∧
    (text.Printable →
      (∀ span ∈ spans, span.start < span.stop ∧
        (Entry.ofSpan number text span).first = span.start + 1 ∧
        (Entry.ofSpan number text span).last = span.stop) ∧
      spans.Pairwise (fun a b =>
        (Entry.ofSpan number text a).last < (Entry.ofSpan number text b).first) ∧
      (entries number text spans).map span? = spans.map some ∧
      ∀ (line : Nat) (other : Text) (others : List Span), other.Printable →
        entries line other others = entries number text spans →
        others.filter (·.IsPart other) = spans) ∧
    ∀ others : List Span, entries number text others =
      (others.filter (·.IsPart text)).map fun span => (Entry.ofSpan number text span).written := by
  intro spans
  have hparts : spans.filter (·.IsPart text) = spans := filter_isPart_highlightLine engine state
  refine ⟨?_, fun span hspan => ?_, fun htext => ?_, entries_eq number text⟩
  · rw [entries_eq, hparts]
  · exact ⟨rfl, rfl, Entry.slice?_ofSpan (isPart_of_mem_highlightLine engine state hspan)⟩
  · refine ⟨fun span hspan => columns_of_mem_highlightLine engine state number htext hspan,
      pairwise_columns_highlightLine engine state number htext, ?_, fun line other others hother h => ?_⟩
    · rw [map_span?_entries number htext, hparts]
    · rw [filter_isPart_eq_of_entries_eq hother htext h, hparts]

theorem entries_faithful_var :
    let text : Text := "var x".toList
    let spans := (Script.actionScript.highlightLine text .normal).spans
    text.Printable ∧ spans = [⟨0, 3, .keyword⟩, ⟨4, 5, .variableName⟩] ∧
      entries 4 text spans = ["5:1-3 Keyword var", "5:5-5 Variable x"] ∧
      (entries 4 text spans).map span? = spans.map some := by
  intro text spans
  have htext : text.Printable := by decide
  obtain ⟨-, -, hprintable, -⟩ := entries_faithful Script.actionScript text .normal 4
  obtain ⟨-, -, htold, -⟩ := hprintable htext
  exact ⟨htext, by decide +kernel, by decide +kernel, htold⟩

end Report

end Highlighter
