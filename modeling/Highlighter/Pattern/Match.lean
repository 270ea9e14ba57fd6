import Highlighter.Pattern.Basic

/-!
Matching. A pattern is run with the rest of the work as a continuation: the choices are tried in
order, and the first one that the continuation accepts counts.
-/
namespace Highlighter

/-- The extent of a group: its index, where it starts and where it ends. -/
structure Capture where
  index : Nat
  first : Cursor
  last : Cursor

/-- The groups passed so far, the latest first. -/
abbrev Captures := List Capture

/-- What remains to be done from a place on. -/
abbrev Continuation := Cursor → Captures → Option (Cursor × Captures)

/-- A way to go on from a place, given what remains to be done after it. -/
abbrev Matcher := Continuation → Continuation

namespace Matcher

/-- Two attempts; the second one is made only if the first fails. -/
def orElse (a b : Matcher) : Matcher := fun k c caps =>
  match a k c caps with
  | some found => some found
  | none => b k c caps

/-- More or nothing, in the order that the greed asks for. -/
def optional (greed : Greed) (more : Matcher) : Matcher :=
  match greed with
  | .greedy => orElse more id
  | .lazy => orElse id more

def exactly (m : Matcher) : Nat → Matcher
  | 0 => id
  | n + 1 => fun k => m (exactly m n k)

def upTo (greed : Greed) (m : Matcher) : Nat → Matcher
  | 0 => id
  | n + 1 => optional greed fun k => m (upTo greed m n k)

/-- Any number of times, each of which has to move forward; `bound` is at least the number of
characters ahead. -/
def star (greed : Greed) (m : Matcher) : (bound : Nat) → Matcher
  | 0 => id
  | bound + 1 => optional greed fun k c =>
    m (fun d caps => if d.ahead < c.ahead then star greed m bound k d caps else none) c

/-- Once, which may be empty, and then as `star`. -/
def plus (greed : Greed) (m : Matcher) : Matcher := fun k c =>
  m (fun d caps => if d.ahead < c.ahead then star greed m d.ahead k d caps else k d caps) c

def rep (greed : Greed) (min : Nat) (max : Option Nat) (m : Matcher) : Matcher :=
  match max, min with
  | some max, min => fun k => exactly m min (upTo greed m (max - min) k)
  | none, 0 => optional greed (plus greed m)
  | none, n + 1 => fun k => exactly m n (plus greed m k)

end Matcher

/-- A match: where it starts and ends, and the groups passed on the way. -/
structure Match where
  first : Cursor
  last : Cursor
  captures : Captures

/-- The byte range of a group: 0 is the match itself, and the latest pass of another one counts. -/
def Match.group? (m : Match) (index : Nat) : Option (Nat × Nat) :=
  if index = 0 then some (m.first.offset, m.last.offset)
  else (m.captures.find? fun cap => cap.index == index).map fun cap =>
    (cap.first.offset, cap.last.offset)

namespace Pattern

/-- The ways through a pattern, tried in order. -/
def run : Pattern → Matcher
  | empty => id
  | char cls => fun k c caps =>
    match c.next? with
    | some (x, d) => if cls.contains x then k d caps else none
    | none => none
  | anchor a => fun k c caps => if a.holds c then k c caps else none
  | group index body => fun k c =>
    body.run (fun d caps => k d (⟨index, c, d⟩ :: caps)) c
  | seq a b => fun k => a.run (b.run k)
  | alt a b => a.run.orElse b.run
  | rep greed min max body => body.run.rep greed min max

def matchAt (p : Pattern) (c : Cursor) : Option Match :=
  (p.run (fun d caps => some (d, caps)) c []).map fun found => ⟨c, found.1, found.2⟩

/-- The first match that starts at a place or at most `bound` characters further on. -/
def searchFrom (p : Pattern) : (bound : Nat) → Cursor → Option Match
  | 0, c => p.matchAt c
  | bound + 1, c =>
    match p.matchAt c, c.next? with
    | some m, _ => some m
    | none, some (_, d) => searchFrom p bound d
    | none, none => none

/-- The first match that starts at a place or further on. -/
def search (p : Pattern) (c : Cursor) : Option Match :=
  p.searchFrom c.ahead c

/-- The next match after one that ended at a place: an empty match there does not count again. -/
def searchAfter (p : Pattern) (c : Cursor) : Option Match :=
  match p.search c with
  | some m =>
    if m.last.ahead < c.ahead then some m
    else
      match c.next? with
      | some (_, d) => p.search d
      | none => none
  | none => none

/-- The matches after one that ended at a place; `bound` is at least the number of characters ahead. -/
def matchesAfter (p : Pattern) : (bound : Nat) → Cursor → List Match
  | 0, _ => []
  | bound + 1, c =>
    match p.searchAfter c with
    | some m => m :: matchesAfter p bound m.last
    | none => []

/-- The matches in a text from left to right. They do not overlap. -/
def findAll (p : Pattern) (text : Text) : List Match :=
  match p.search (.start text) with
  | some m => m :: p.matchesAfter m.last.ahead m.last
  | none => []

end Pattern

end Highlighter
