import Highlighter.Construct
import Highlighter.Proofs.Pattern.Pieces

/-!
Closers that can be escaped. Counting the escapes in front of a closer comes to the same as reading
the body from left to right, where an escape takes the next character with it.
-/
namespace Highlighter

/-- A delimiter, or the end of the text as well. -/
def Pattern.delimiter (d : Char) (orEnd : Bool) : Pattern :=
  if orEnd then alt (literal [d]) textEnd else literal [d]

/-- An odd number of escapes stands before a place whose left side is given backwards. -/
def Text.isEscaped (escape : Char) (before : Text) : Bool :=
  (before.takeWhile (· == escape)).length % 2 == 1

/-- The length of a body with its closing delimiter, read from left to right. -/
def Text.closing? (escape d : Char) (orEnd : Bool) (escaped : Bool) : Text → Option Nat
  | [] => if orEnd && !escaped then some 0 else none
  | x :: rest =>
    if x = d ∧ escaped = false then some x.utf8Size
    else (closing? escape d orEnd (x == escape && !escaped) rest).map (x.utf8Size + ·)

namespace Text

@[simp] theorem isEscaped_nil (escape : Char) : isEscaped escape [] = false := rfl

theorem isEscaped_cons (escape x : Char) (before : Text) :
    isEscaped escape (x :: before) = (x == escape && !isEscaped escape before) := by
  by_cases hx : x = escape
  · simp only [isEscaped, hx, beq_self_eq_true, List.takeWhile_cons_of_pos, List.length_cons,
      Bool.true_and]
    rcases Nat.mod_two_eq_zero_or_one (before.takeWhile (· == escape)).length with h | h
    · simp [Nat.add_mod, h]
    · simp [Nat.add_mod, h]
  · simp [isEscaped, hx]

end Text

namespace Pattern

variable {d : Char} {orEnd : Bool} {before rest : Text}

theorem matchAt_delimiter_nil :
    (delimiter d orEnd).matchAt (.between before []) =
      if orEnd then some ⟨.between before [], .between before [], []⟩ else none := by
  have hd : (literal [d]).ways (.between before []) [] = [] := ways_literal_eq_nil (by simp)
  cases orEnd with
  | false => simp [delimiter, matchAt_eq, hd]
  | true =>
      have halt : (alt (literal [d]) textEnd).ways (.between before []) [] =
          (literal [d]).ways (.between before []) [] ++ textEnd.ways (.between before []) [] := rfl
      simp [delimiter, matchAt_eq, halt, hd, ways_textEnd]

theorem matchAt_delimiter_self :
    (delimiter d orEnd).matchAt (.between before (d :: rest)) =
      some ⟨.between before (d :: rest), .between (d :: before) rest, []⟩ := by
  have hd : (literal [d]).ways (.between before (d :: rest)) [] =
      [(.between (d :: before) rest, [])] := by
    simpa using @ways_literal_append before rest [] [d]
  cases orEnd with
  | false => simp [delimiter, matchAt_eq, hd]
  | true =>
      have halt : (alt (literal [d]) textEnd).ways (.between before (d :: rest)) [] =
          (literal [d]).ways (.between before (d :: rest)) [] ++
            textEnd.ways (.between before (d :: rest)) [] := rfl
      simp [delimiter, matchAt_eq, halt, hd]

theorem matchAt_delimiter_of_ne {x : Char} (hx : x ≠ d) :
    (delimiter d orEnd).matchAt (.between before (x :: rest)) = none := by
  have hd : (literal [d]).ways (.between before (x :: rest)) [] = [] :=
    ways_literal_eq_nil (by simpa using hx.symm)
  cases orEnd with
  | false => simp [delimiter, matchAt_eq, hd]
  | true =>
      have halt : (alt (literal [d]) textEnd).ways (.between before (x :: rest)) [] =
          (literal [d]).ways (.between before (x :: rest)) [] ++
            textEnd.ways (.between before (x :: rest)) [] := rfl
      simp [delimiter, matchAt_eq, halt, hd, ways_textEnd]

end Pattern

namespace Construct

variable {p : Pattern} {escape d : Char} {orEnd : Bool} {pre post : Text} {fuel : Nat}

theorem closerFrom_succ :
    closerFrom p escape (pre ++ post) (fuel + 1) pre.byteLength =
      match p.search (.between pre.reverse post) with
      | none => none
      | some m =>
        if Text.isEscaped escape m.first.before then
          closerFrom p escape (pre ++ post) fuel
            (if m.first.offset < m.last.offset then m.last.offset else m.last.offset + 1)
        else some m.last.offset := by
  rw [closerFrom, Cursor.seek_byteLength, Option.bind_some]
  cases p.search (.between pre.reverse post) with
  | none => rfl
  | some m =>
      rcases Nat.mod_two_eq_zero_or_one (m.first.before.takeWhile (· == escape)).length with h | h
      · simp [Text.isEscaped, h]
      · simp [Text.isEscaped, h]

theorem closerFrom_cons {x : Char} (h : p.matchAt (.between pre.reverse (x :: post)) = none) :
    closerFrom p escape (pre ++ x :: post) (fuel + 1) pre.byteLength =
      closerFrom p escape ((pre ++ [x]) ++ post) (fuel + 1) (pre ++ [x]).byteLength := by
  rw [closerFrom_succ, closerFrom_succ, Pattern.search_between_cons, h]
  simp

theorem closerFrom_eq_none {text : Text} {pos : Nat} (h : text.byteLength < pos) :
    closerFrom p escape text fuel pos = none := by
  cases fuel with
  | zero => rfl
  | succ fuel => simp [closerFrom, Cursor.seek_eq_none h]

/-- The search for a delimiter that is not escaped is a reading from left to right. -/
theorem closerFrom_delimiter (hne : d ≠ escape) (hfuel : post.byteLength < fuel) :
    closerFrom (.delimiter d orEnd) escape (pre ++ post) fuel pre.byteLength =
      (Text.closing? escape d orEnd (Text.isEscaped escape pre.reverse) post).map
        (pre.byteLength + ·) := by
  -- A round may pass over many characters, so the induction is on the text and not on the fuel.
  induction post generalizing pre fuel with
  | nil =>
      obtain ⟨fuel, rfl⟩ : ∃ n, fuel = n + 1 := ⟨fuel - 1, by omega⟩
      rw [closerFrom_succ, Pattern.search_between_nil, Pattern.matchAt_delimiter_nil]
      cases orEnd with
      | false => simp [Text.closing?]
      | true =>
          cases hesc : Text.isEscaped escape pre.reverse with
          | false => simp [Text.closing?, hesc, Cursor.offset]
          | true =>
              have hnone :
                  closerFrom (.delimiter d true) escape pre fuel (pre.byteLength + 1) = none :=
                closerFrom_eq_none (by omega)
              simp [Text.closing?, hesc, Cursor.offset, hnone]
  | cons x post ih =>
      obtain ⟨fuel, rfl⟩ : ∃ n, fuel = n + 1 := ⟨fuel - 1, by omega⟩
      have hsize := x.utf8Size_pos
      have hshift : pre ++ x :: post = (pre ++ [x]) ++ post := by simp
      have hlength : (pre ++ [x]).byteLength = pre.byteLength + x.utf8Size := by simp
      simp only [Text.byteLength_cons] at hfuel
      by_cases hx : x = d
      · subst hx
        rw [closerFrom_succ, Pattern.search_between_cons, Pattern.matchAt_delimiter_self]
        cases hesc : Text.isEscaped escape pre.reverse with
        | false => simp [Text.closing?, hesc, Cursor.offset, Nat.add_comm]
        | true =>
            -- the delimiter is escaped, so it is a character of the body
            have hplain : Text.isEscaped escape (pre ++ [x]).reverse = false := by
              simp [Text.isEscaped_cons, hne]
            have hrest := @ih (pre ++ [x]) fuel (by omega)
            rw [hplain, ← hshift, hlength] at hrest
            simp [Text.closing?, hesc, Cursor.offset, hsize, hrest, Function.comp_def, Nat.add_assoc,
              Nat.add_comm x.utf8Size pre.byteLength]
      · rw [closerFrom_cons (Pattern.matchAt_delimiter_of_ne hx), ih (by omega)]
        simp [Text.closing?, hx, Text.isEscaped_cons, Function.comp_def, Nat.add_assoc]

theorem closerIn_delimiter {construct : Construct} (hcloser : construct.closer = .delimiter d orEnd)
    (hescape : construct.escape = some escape) (hne : d ≠ escape) (body : Text) :
    construct.closerIn body = Text.closing? escape d orEnd false body := by
  have h := @closerFrom_delimiter escape d orEnd [] body _ hne (Nat.lt_succ_self body.byteLength)
  simpa [closerIn, hcloser, hescape, Option.map_id'] using h

end Construct

/-! ## Reading a body -/

/-- What a reading from left to right comes to when an escape takes the next character with it. -/
inductive Reading
  /-- A delimiter that no escape took; the length up to its end. -/
  | closed (length : Nat)
  | ended
  /-- The text ends in an escape with nothing left to take. -/
  | dangling
deriving DecidableEq, Repr

def Reading.after (n : Nat) : Reading → Reading
  | closed length => closed (n + length)
  | ended => ended
  | dangling => dangling

def Text.read (escape d : Char) : Text → Reading
  | [] => .ended
  | [x] => if x = escape then .dangling else if x = d then .closed x.utf8Size else .ended
  | x :: y :: rest =>
    if x = escape then (read escape d rest).after (x.utf8Size + y.utf8Size)
    else if x = d then .closed x.utf8Size
    else (read escape d (y :: rest)).after x.utf8Size

/-- Where a body ends; the end of the text counts as a delimiter or not. -/
def Reading.stop? (orEnd : Bool) (length : Nat) : Reading → Option Nat
  | closed stop => some stop
  | ended => if orEnd then some length else none
  | dangling => none

theorem Reading.stop?_after (orEnd : Bool) (n length : Nat) (reading : Reading) :
    (reading.after n).stop? orEnd (n + length) = (reading.stop? orEnd length).map (n + ·) := by
  cases reading with
  | closed stop => rfl
  | ended => cases orEnd <;> rfl
  | dangling => rfl

theorem Text.closing?_eq_read {escape d : Char} {orEnd : Bool} (hne : d ≠ escape) (body : Text) :
    closing? escape d orEnd false body = (body.read escape d).stop? orEnd body.byteLength := by
  fun_induction Text.read escape d body with
  | case1 => cases orEnd <;> rfl
  | case2 => simp [closing?, Reading.stop?, hne.symm]
  | case3 hx => simp [closing?, Reading.stop?]
  | case4 x hx hd => cases orEnd <;> simp [closing?, Reading.stop?, hx, hd]
  | case5 y rest ih =>
      -- the escape takes the next character, whatever it is
      have hescaped : closing? escape d orEnd true (y :: rest) =
          (closing? escape d orEnd false rest).map (y.utf8Size + ·) := by
        simp [closing?]
      rw [closing?, if_neg (by simp [hne.symm]), byteLength_cons, byteLength_cons,
        ← Nat.add_assoc, Reading.stop?_after, ← ih]
      simp [hescaped, Function.comp_def, Nat.add_assoc]
  | case6 y rest hx => rw [closing?, if_pos ⟨rfl, rfl⟩, Reading.stop?]
  | case7 x y rest hx hd ih =>
      have hplain : (x == escape && !false) = false := by simp [hx]
      rw [closing?, if_neg (by simp [hd]), hplain, byteLength_cons, Reading.stop?_after, ← ih]

namespace Construct

/-- What stands in front of the body, escapes included, has no say in where it ends. -/
theorem findCloser_eq_read {construct : Construct} {escape d : Char} {orEnd : Bool}
    (hcloser : construct.closer = .delimiter d orEnd) (hescape : construct.escape = some escape)
    (hne : d ≠ escape) (pre body : Text) :
    construct.findCloser (pre ++ body) pre.byteLength =
      match body.read escape d with
      | .closed length => some (pre.byteLength + length)
      | .ended => if orEnd then some (pre ++ body).byteLength else none
      | .dangling => none := by
  rw [findCloser, Text.splitAt?_byteLength, Option.bind_some,
    closerIn_delimiter hcloser hescape hne, Text.closing?_eq_read hne]
  cases body.read escape d with
  | closed length => rfl
  | ended => cases orEnd <;> simp [Reading.stop?]
  | dangling => rfl

/-- The backslash in front of the body does not count; the one before the first quote does. -/
theorem findCloser_eq_read_quoted :
    Construct.findCloser ⟨"quoted", .literal ['"'], .delimiter '"' true, .string, some '\\', 3⟩
      ("x\\".toList ++ "\\\"y\" z".toList) 2 = some 6 := by
  have hread := @findCloser_eq_read ⟨"quoted", .literal ['"'], .delimiter '"' true, .string,
    some '\\', 3⟩ '\\' '"' true rfl rfl (by decide) "x\\".toList "\\\"y\" z".toList
  exact hread.trans (by decide +kernel)

end Construct

end Highlighter
