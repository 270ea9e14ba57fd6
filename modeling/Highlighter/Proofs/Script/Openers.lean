import Highlighter.Construct
import Highlighter.Proofs.Pattern.Pieces
import Highlighter.Proofs.Script.Lexer

/-!
Where constructs open. Each opener is searched for on its own, and the first hit counts; walking
over the text once and asking at each place which construct opens there comes to the same.
-/
namespace Highlighter.Script

/-- How a construct opens: with a word, some only where an operand is expected, and the mode of the
lexer after the word. -/
structure Opener where
  construct : Construct
  word : Text
  operand : Bool := false
  inside : Mode

def blockOpener : Opener where
  construct := blockComment
  word := ['/', '*']
  inside := .block

def lineOpener : Opener where
  construct := lineComment
  word := ['/', '/']
  inside := .line

def doubleOpener : Opener where
  construct := doubleString
  word := ['"']
  inside := .quoted '"' false

def singleOpener : Opener where
  construct := singleString
  word := ['\'']
  inside := .quoted '\'' false

def templateOpener : Opener where
  construct := templateString
  word := ['\x60']
  inside := .quoted '\x60' false

def regexOpener : Opener where
  construct := regexLiteral
  word := ['/']
  operand := true
  inside := .regex false false

def openers : List Opener :=
  [blockOpener, lineOpener, doubleOpener, singleOpener, templateOpener, regexOpener]

def Opener.fits (o : Opener) (operand : Bool) (s : Text) : Bool :=
  o.word.isPrefixOf s && (!o.operand || operand)

/-- The first place of a text where an opener stands, and which one does. -/
def firstIn (os : List Opener) : Bool → Text → Option (Nat × Opener)
  | _, [] => none
  | operand, x :: s =>
    match os.find? (·.fits operand (x :: s)) with
    | some o => some (0, o)
    | none => (firstIn os (Mode.operandAfter operand x) s).map fun r => (x.utf8Size + r.1, r.2)

def earlier (a b : Option (Nat × Opener)) : Option (Nat × Opener) :=
  match a, b with
  | none, b => b
  | some a, none => some a
  | some a, some b => if b.1 < a.1 then some b else some a

theorem earlier_map_add (n : Nat) (a b : Option (Nat × Opener)) :
    earlier (a.map fun r => (n + r.1, r.2)) (b.map fun r => (n + r.1, r.2)) =
      (earlier a b).map fun r => (n + r.1, r.2) := by
  cases a with
  | none => rfl
  | some a =>
      cases b with
      | none => rfl
      | some b =>
          by_cases h : b.1 < a.1
          · simp [earlier, h]
          · simp [earlier, h]

theorem firstIn_nil_openers (operand : Bool) (s : Text) : firstIn [] operand s = none := by
  induction s generalizing operand with
  | nil => rfl
  | cons x s ih => simp [firstIn, ih]

/-- The first hit of several openers is the earliest one of their first hits. -/
theorem firstIn_cons (o : Opener) (os : List Opener) (operand : Bool) (s : Text) :
    firstIn (o :: os) operand s = earlier (firstIn [o] operand s) (firstIn os operand s) := by
  induction s generalizing operand with
  | nil => rfl
  | cons x s ih =>
      have hx := x.utf8Size_pos
      cases ho : o.fits operand (x :: s) with
      | true =>
          simp only [firstIn, List.find?_cons, ho]
          cases os.find? (·.fits operand (x :: s)) with
          | some o' => rfl
          | none => cases firstIn os (Mode.operandAfter operand x) s <;> rfl
      | false =>
          cases hos : os.find? (·.fits operand (x :: s)) with
          | none => simp [firstIn, ho, hos, ih, earlier_map_add]
          | some o' =>
              -- another opener stands at this byte, and `o` at a later one at best
              simp only [firstIn, List.find?_cons, ho, hos, List.find?_nil]
              cases firstIn [o] (Mode.operandAfter operand x) s with
              | none => rfl
              | some r =>
                  have hlt : 0 < x.utf8Size + r.1 := by omega
                  simp [earlier, hlt]

theorem mem_of_firstIn {os : List Opener} {operand : Bool} {s : Text} {r : Nat × Opener}
    (h : firstIn os operand s = some r) : r.2 ∈ os := by
  induction s generalizing operand r with
  | nil => simp [firstIn] at h
  | cons x s ih =>
      simp only [firstIn] at h
      split at h
      · rename_i o ho
        cases h
        exact List.mem_of_find?_eq_some ho
      · obtain ⟨r', hr', rfl⟩ := Option.map_eq_some_iff.1 h
        exact @ih _ r' hr'

/-- The byte range of the word of a hit, where the search began after `before`. -/
def range (before : Text) (hit : Nat × Opener) : Nat × Nat :=
  (before.byteLength + hit.1, before.byteLength + hit.1 + hit.2.word.byteLength)

theorem range_cons (x : Char) (before : Text) :
    range (x :: before) = fun r => range before (x.utf8Size + r.1, r.2) := by
  funext r
  simp [range, Nat.add_assoc, Nat.add_left_comm]

def opening (before : Text) (hit : Nat × Opener) : Opening :=
  ⟨(range before hit).1, (range before hit).2, hit.2.construct⟩

/-- The first opening of a list of constructs, from the hits of each opener. -/
theorem firstOpening_eq {text before : Text} {pos : Nat} {operand : Bool} {s : Text}
    (os : List Opener)
    (h : ∀ o ∈ os, o.construct.findOpener text pos = (firstIn [o] operand s).map (range before)) :
    Construct.firstOpening text pos (os.map Opener.construct) =
      (firstIn os operand s).map (opening before) := by
  induction os with
  | nil => simp [Construct.firstOpening, firstIn_nil_openers]
  | cons o os ih =>
      have hrest := ih fun o' ho' => h o' (List.mem_cons_of_mem _ ho')
      rw [List.map_cons, Construct.firstOpening, h o List.mem_cons_self, hrest,
        firstIn_cons o os]
      cases ho : firstIn [o] operand s with
      | none => simp [earlier]
      | some r =>
          have hr : r.2 = o := by simpa using mem_of_firstIn ho
          cases firstIn os operand s with
          | none => simp [earlier, opening, hr]
          | some r' =>
              by_cases hlt : r'.1 < r.1
              · simp [earlier, opening, range, hlt]
              · simp [earlier, opening, range, hlt, hr]

/-! ## Searching for one opener -/

variable {o : Opener} {pre post before rest : Text} {x : Char} {operand : Bool}

theorem firstIn_singleton_cons :
    firstIn [o] operand (x :: rest) =
      if o.fits operand (x :: rest) then some (0, o)
      else (firstIn [o] (Mode.operandAfter operand x) rest).map fun r => (x.utf8Size + r.1, r.2) := by
  cases h : o.fits operand (x :: rest) <;> simp [firstIn, h]

/-- The byte range that a search from a place reports. -/
def reported (p : Pattern) (c : Cursor) : Option (Nat × Nat) :=
  (p.search c).bind fun m => (m.group? 1).or (m.group? 0)

theorem findOpener_eq_reported (construct : Construct) (pre post : Text) :
    construct.findOpener (pre ++ post) pre.byteLength =
      if post = [] then none else reported construct.opener (.between pre.reverse post) := by
  cases post with
  | nil => simp [Construct.findOpener]
  | cons x post =>
      have hx := x.utf8Size_pos
      have hlt : pre.byteLength < (pre ++ x :: post).byteLength := by
        simp only [Text.byteLength_append, Text.byteLength_cons]; omega
      rw [Construct.findOpener, if_pos hlt, Cursor.seek_byteLength]
      simp [reported]

theorem reported_cons (p : Pattern) (before : Text) (x : Char) (rest : Text) :
    reported p (.between before (x :: rest)) =
      ((p.matchAt (.between before (x :: rest))).bind fun m => (m.group? 1).or (m.group? 0)).or
        (reported p (.between (x :: before) rest)) := by
  rw [reported, Pattern.search_between_cons]
  cases p.matchAt (.between before (x :: rest)) with
  | none => rfl
  | some m =>
      have hzero : m.group? 0 = some (m.first.offset, m.last.offset) := rfl
      cases h : m.group? 1 <;> simp [h, hzero]

theorem reported_literal (hw : o.word ≠ []) (hop : o.operand = false) :
    reported (.literal o.word) (.between before rest) =
      (firstIn [o] operand rest).map (range before) := by
  induction rest generalizing before operand with
  | nil =>
      have hnone : (Pattern.literal o.word).matchAt (.between before []) = none :=
        Pattern.matchAt_literal_eq_none (by simpa using hw)
      simp [reported, Pattern.search_between_nil, hnone, firstIn]
  | cons x rest ih =>
      rw [firstIn_singleton_cons]
      by_cases hpre : o.word <+: x :: rest
      · obtain ⟨tail, htail⟩ := hpre
        have hfits : o.fits operand (x :: rest) = true := by simp [Opener.fits, hop, ← htail]
        rw [reported_cons, ← htail, Pattern.matchAt_literal_append, htail, if_pos hfits]
        simp [Match.group?, Cursor.offset, range, Nat.add_comm]
      · have hfits : o.fits operand (x :: rest) = false := by simp [Opener.fits, hpre]
        rw [reported_cons, Pattern.matchAt_literal_eq_none hpre,
          @ih (x :: before) (Mode.operandAfter operand x), hfits, range_cons]
        simp [Function.comp_def]

/-! ## The slash of a regular expression -/

/-- The range of a slash after white space. -/
def slash? (before : Text) : Text → Option (Nat × Nat)
  | [] => none
  | x :: rest =>
    if x = '/' then some (before.byteLength, before.byteLength + 1)
    else if Text.isBlank x then slash? (x :: before) rest
    else none

/-- White space and a slash, which is a group. -/
def gapSlash : Pattern := .concat [gap, .group 1 (.text "/")]

theorem isBlank_slash : Text.isBlank '/' = false := by decide

theorem ways_slash_cons :
    (Pattern.group 1 (.text "/")).ways (.between before (x :: rest)) [] =
      if x = '/' then
        [(.between (x :: before) rest,
          [⟨1, .between before (x :: rest), .between (x :: before) rest⟩])]
      else [] := by
  by_cases hx : x = '/'
  · subst hx
    rfl
  · simp [Pattern.ways, Pattern.text, Pattern.literal, Pattern.concat, CharClass.contains, hx]

theorem ways_gapSlash :
    gapSlash.ways (.between before rest) [] =
      (Pattern.stops .blank before rest).flatMap fun c =>
        (Pattern.group 1 (.text "/")).ways c [] := by
  have hgap : gap.ways (.between before rest) [] =
      (Pattern.stops .blank before rest).map fun c => (c, []) := Pattern.ways_star_char
  simp [gapSlash, Pattern.concat, Pattern.ways, Ways.andThen, hgap, List.flatMap_map]

/-- The ways over white space and a slash are at most one, and its group is the slash. -/
theorem ways_gapSlash_map (c : Cursor) :
    (gapSlash.ways (.between before rest) []).map (fun r => Match.group? ⟨c, r.1, r.2⟩ 1) =
      (slash? before rest).toList.map some := by
  rw [ways_gapSlash]
  induction rest generalizing before with
  | nil => rfl
  | cons x rest ih =>
      by_cases hblank : Text.isBlank x
      · have hx : x ≠ '/' := fun h => by simp [h, isBlank_slash] at hblank
        simp [Pattern.stops, CharClass.contains, hblank, ways_slash_cons, slash?, hx, ih]
      · by_cases hx : x = '/'
        · subst hx
          simp [Pattern.stops, CharClass.contains, ways_slash_cons, slash?, Match.group?,
            isBlank_slash, Cursor.offset, Nat.add_comm]
          decide
        · simp [Pattern.stops, CharClass.contains, hblank, ways_slash_cons, slash?, hx]

theorem fits_regexOpener :
    regexOpener.fits operand (x :: rest) = (operand && x == '/') := by
  simp [regexOpener, Opener.fits, List.isPrefixOf, Bool.and_comm, Bool.beq_comm]

theorem firstIn_regexOpener_true :
    (firstIn [regexOpener] true rest).map (range before) =
      (slash? before rest).or ((firstIn [regexOpener] false rest).map (range before)) := by
  induction rest generalizing before with
  | nil => rfl
  | cons x rest ih =>
      rw [firstIn_singleton_cons, firstIn_singleton_cons, fits_regexOpener, fits_regexOpener]
      by_cases hslash : x = '/'
      · subst hslash
        simp [slash?, range, regexOpener]
        decide
      · by_cases hblank : Text.isBlank x
        · have hnot : ¬ x ∈ beforeOperand := fun h => by
            have hall : beforeOperand.all (fun y => !Text.isBlank y) := by decide
            simpa [hblank] using List.all_eq_true.1 hall x h
          have hrest := @ih (x :: before)
          rw [range_cons] at hrest
          simpa [slash?, hslash, hblank, Mode.operandAfter, hnot, Function.comp_def] using hrest
        · simp [slash?, hslash, hblank, Mode.operandAfter]

theorem ways_regexOpener_cons :
    regexLiteral.opener.ways (.between before (x :: rest)) [] =
      (if before = [] then gapSlash.ways (.between before (x :: rest)) [] else []) ++
        if x ∈ beforeOperand then gapSlash.ways (.between (x :: before) rest) [] else [] := by
  have hopener : regexLiteral.opener.ways =
      ((Pattern.textStart.ways.orElse (Pattern.char (.oneOf beforeOperand)).ways)).andThen
        gapSlash.ways := rfl
  have hclass : (CharClass.oneOf beforeOperand).contains x = decide (x ∈ beforeOperand) := by
    rw [Bool.eq_iff_iff, CharClass.contains_oneOf, decide_eq_true_iff]
  rw [hopener, Ways.andThen, Ways.orElse, Pattern.ways_textStart, Pattern.ways_char_cons, hclass]
  by_cases hb : before = []
  · by_cases hx : x ∈ beforeOperand
    · simp [hb, hx]
    · simp [hb, hx]
  · by_cases hx : x ∈ beforeOperand
    · simp [hb, hx]
    · simp [hb, hx]

theorem head?_bind_group? {ws : List (Cursor × Captures)} {ranges : List (Nat × Nat)} (c : Cursor)
    (h : ws.map (fun w => Match.group? ⟨c, w.1, w.2⟩ 1) = ranges.map some) :
    ((ws.head?.map fun w => (⟨c, w.1, w.2⟩ : Match)).bind fun m => (m.group? 1).or (m.group? 0)) =
      ranges.head? := by
  cases ws with
  | nil =>
      have hranges : ranges = [] := by simpa using h.symm
      rw [hranges]
      rfl
  | cons w ws =>
      cases ranges with
      | nil => simp at h
      | cons r ranges =>
          simp only [List.map_cons, List.cons.injEq] at h
          simp [h.1]

theorem ways_regexOpener_map (before : Text) (x : Char) (rest : Text) (c : Cursor) :
    (regexLiteral.opener.ways (.between before (x :: rest)) []).map
        (fun r => Match.group? ⟨c, r.1, r.2⟩ 1) =
      ((if before = [] then slash? before (x :: rest) else none).toList ++
        (if x ∈ beforeOperand then slash? (x :: before) rest else none).toList).map some := by
  rw [ways_regexOpener_cons, List.map_append, List.map_append]
  congr 1
  · split
    · exact ways_gapSlash_map c
    · rfl
  · split
    · exact ways_gapSlash_map c
    · rfl

/-- The range of a slash that opens a regular expression: the first one where an operand is
expected. -/
theorem reported_regexOpener :
    reported regexLiteral.opener (.between before rest) =
      (firstIn [regexOpener] (before == []) rest).map (range before) := by
  induction rest generalizing before with
  | nil =>
      have hways : regexLiteral.opener.ways (.between before []) [] = [] := by cases before <;> rfl
      simp [reported, Pattern.search_between_nil, Pattern.matchAt_eq, hways, firstIn]
  | cons x rest ih =>
      -- the context is the start of the text or the character before white space and the slash
      have hmatch : ((regexLiteral.opener.matchAt (.between before (x :: rest))).bind fun m =>
            (m.group? 1).or (m.group? 0)) =
          (if before = [] then slash? before (x :: rest) else none).or
            (if x ∈ beforeOperand then slash? (x :: before) rest else none) := by
        have hgroups := head?_bind_group? (.between before (x :: rest))
          (ways_regexOpener_map before x rest (.between before (x :: rest)))
        rw [Pattern.matchAt_eq, hgroups]
        simp
      have hplain : (firstIn [regexOpener] false (x :: rest)).map (range before) =
          (if x ∈ beforeOperand then slash? (x :: before) rest else none).or
            ((firstIn [regexOpener] false rest).map (range (x :: before))) := by
        rw [firstIn_singleton_cons, fits_regexOpener]
        by_cases hx : x ∈ beforeOperand
        · rw [if_pos hx, ← firstIn_regexOpener_true, range_cons]
          simp [Mode.operandAfter, hx, Function.comp_def]
        · rw [if_neg hx, range_cons]
          simp [Mode.operandAfter, hx, Function.comp_def]
      rw [reported_cons, hmatch, ih, Option.or_assoc]
      cases before with
      | nil =>
          rw [if_pos rfl]
          exact (hplain ▸ firstIn_regexOpener_true).symm
      | cons y before =>
          rw [if_neg (by simp)]
          exact hplain.symm

/-! ## All openers -/

theorem opener_cases (h : o ∈ openers) :
    (o.construct.opener = .literal o.word ∧ o.operand = false) ∨ o = regexOpener := by
  simp only [openers, List.mem_cons, List.not_mem_nil, or_false] at h
  rcases h with rfl | rfl | rfl | rfl | rfl | rfl
  · exact .inl ⟨rfl, rfl⟩
  · exact .inl ⟨rfl, rfl⟩
  · exact .inl ⟨rfl, rfl⟩
  · exact .inl ⟨rfl, rfl⟩
  · exact .inl ⟨rfl, rfl⟩
  · exact .inr rfl

theorem word_ne_nil (h : o ∈ openers) : o.word ≠ [] := by
  have hall : ∀ o ∈ openers, o.word ≠ [] := by simp [openers, blockOpener, lineOpener, doubleOpener, singleOpener, templateOpener, regexOpener]
  exact hall o h

theorem findOpener_opener (h : o ∈ openers) (pre post : Text) :
    o.construct.findOpener (pre ++ post) pre.byteLength =
      (firstIn [o] (pre == []) post).map (range pre.reverse) := by
  rw [findOpener_eq_reported]
  split
  case isTrue hpost =>
    rw [hpost]
    rfl
  case isFalse hpost =>
    rcases opener_cases h with ⟨hopener, hoperand⟩ | rfl
    · rw [hopener]
      exact reported_literal (word_ne_nil h) hoperand
    · have hstart : (pre.reverse == []) = (pre == []) := by simp
      rw [← hstart]
      exact reported_regexOpener

theorem firstOpening_constructs (pre post : Text) :
    Construct.firstOpening (pre ++ post) pre.byteLength constructs =
      (firstIn openers (pre == []) post).map (opening pre.reverse) :=
  firstOpening_eq openers fun _ ho => findOpener_opener ho pre post

end Highlighter.Script
