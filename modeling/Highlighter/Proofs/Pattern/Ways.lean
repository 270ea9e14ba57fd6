import Highlighter.Pattern.Match
import Highlighter.Proofs.List
import Highlighter.Proofs.Text.Reach

/-!
The ways through a pattern as a list, the preferred one first. Running a pattern tries them in
order, so the match at a place is the first of them.
-/
namespace Highlighter

/-- The places where one can go on after a place, with the groups passed on the way. -/
abbrev Ways := Cursor → Captures → List (Cursor × Captures)

namespace Ways

def stay : Ways := fun c caps => [(c, caps)]

def andThen (a b : Ways) : Ways := fun c caps => (a c caps).flatMap fun r => b r.1 r.2

def orElse (a b : Ways) : Ways := fun c caps => a c caps ++ b c caps

/-- More or nothing, in the order that the greed asks for. -/
def optional (greed : Greed) (more : Ways) : Ways :=
  match greed with
  | .greedy => more.orElse stay
  | .lazy => stay.orElse more

def exactly (w : Ways) : Nat → Ways
  | 0 => stay
  | n + 1 => w.andThen (exactly w n)

def upTo (greed : Greed) (w : Ways) : Nat → Ways
  | 0 => stay
  | n + 1 => optional greed (w.andThen (upTo greed w n))

/-- Any number of times up to a bound, each of which moves forward. -/
def star (greed : Greed) (w : Ways) : (bound : Nat) → Ways
  | 0 => stay
  | bound + 1 => optional greed fun c caps =>
    (w c caps).flatMap fun r => if r.1.ahead < c.ahead then star greed w bound r.1 r.2 else []

/-- Once, which may be empty, and then any number of times. -/
def plus (greed : Greed) (w : Ways) : Ways := fun c caps =>
  (w c caps).flatMap fun r =>
    if r.1.ahead < c.ahead then star greed w r.1.ahead r.1 r.2 else stay r.1 r.2

def rep (greed : Greed) (min : Nat) (max : Option Nat) (w : Ways) : Ways :=
  match max, min with
  | some max, min => (exactly w min).andThen (upTo greed w (max - min))
  | none, 0 => optional greed (plus greed w)
  | none, n + 1 => (exactly w n).andThen (plus greed w)

end Ways

/-- The matcher tries the ways in order and takes the first one with which the rest succeeds. -/
def Matcher.Tries (m : Matcher) (w : Ways) : Prop :=
  ∀ k c caps, m k c caps = (w c caps).findSome? fun r => k r.1 r.2

namespace Matcher.Tries

variable {m m' : Matcher} {w w' : Ways}

theorem stay : Tries id .stay := by
  intro k c caps
  simp [Ways.stay]

theorem andThen (h : m.Tries w) (h' : m'.Tries w') : Tries (fun k => m (m' k)) (w.andThen w') := by
  intro k c caps
  have hk : m' k = fun d caps => (w' d caps).findSome? fun r => k r.1 r.2 := by
    funext d caps
    exact h' k d caps
  simp [h _ c caps, hk, Ways.andThen, findSome?_flatMap]

theorem orElse (h : m.Tries w) (h' : m'.Tries w') : Tries (m.orElse m') (w.orElse w') := by
  intro k c caps
  simp only [Matcher.orElse, Ways.orElse, List.findSome?_append, h k c caps, h' k c caps]
  cases (w c caps).findSome? fun r => k r.1 r.2 <;> rfl

theorem optional (greed : Greed) (h : m.Tries w) :
    Tries (Matcher.optional greed m) (Ways.optional greed w) := by
  cases greed with
  | greedy => exact h.orElse stay
  | lazy => exact stay.orElse h

theorem exactly (h : m.Tries w) (n : Nat) : Tries (Matcher.exactly m n) (w.exactly n) := by
  induction n with
  | zero => exact stay
  | succ n ih => exact h.andThen ih

theorem upTo (greed : Greed) (h : m.Tries w) (n : Nat) :
    Tries (Matcher.upTo greed m n) (w.upTo greed n) := by
  induction n with
  | zero => exact stay
  | succ n ih => exact optional greed (h.andThen ih)

theorem guarded {next : Cursor → Matcher} {ways : Cursor → Ways} (h : m.Tries w)
    (hn : ∀ c, (next c).Tries (ways c)) :
    Tries (fun k c => m (fun d caps => next c k d caps) c) fun c caps =>
      (w c caps).flatMap fun r => ways c r.1 r.2 := by
  intro k c caps
  simp only [h _ c caps, hn c k, findSome?_flatMap]

theorem ite {p : Cursor → Prop} [DecidablePred p] (h : m.Tries w) (h' : m'.Tries w') :
    Tries (fun k c caps => if p c then m k c caps else m' k c caps) fun c caps =>
      if p c then w c caps else w' c caps := by
  intro k c caps
  by_cases hp : p c
  · simp only [hp, ↓reduceIte, h k c caps]
  · simp only [hp, ↓reduceIte, h' k c caps]

theorem fail : Tries (fun _ _ _ => none) fun _ _ => [] := fun _ _ _ => rfl

theorem star (greed : Greed) (h : m.Tries w) (bound : Nat) :
    Tries (Matcher.star greed m bound) (w.star greed bound) := by
  induction bound with
  | zero => exact stay
  | succ bound ih => exact optional greed (h.guarded fun c => ih.ite (p := (·.ahead < c.ahead)) fail)

theorem plus (greed : Greed) (h : m.Tries w) : Tries (Matcher.plus greed m) (w.plus greed) := by
  -- The bound of the repetition is taken anew at each place from which it begins.
  have hstar : Tries (fun k d caps => Matcher.star greed m d.ahead k d caps) fun d caps =>
      w.star greed d.ahead d caps := fun k d caps => h.star greed d.ahead k d caps
  exact h.guarded fun c => hstar.ite (p := (·.ahead < c.ahead)) stay

theorem rep (greed : Greed) (min : Nat) (max : Option Nat) (h : m.Tries w) :
    Tries (Matcher.rep greed min max m) (w.rep greed min max) := by
  match max, min with
  | some max, min => exact (h.exactly min).andThen (h.upTo greed (max - min))
  | none, 0 => exact optional greed (h.plus greed)
  | none, n + 1 => exact (h.exactly n).andThen (h.plus greed)

end Matcher.Tries

namespace Pattern

def ways : Pattern → Ways
  | empty => .stay
  | char cls => fun c caps =>
    match c.next? with
    | some (x, d) => if cls.contains x then [(d, caps)] else []
    | none => []
  | anchor a => fun c caps => if a.holds c then [(c, caps)] else []
  | group index body => fun c caps =>
    (body.ways c caps).map fun r => (r.1, ⟨index, c, r.1⟩ :: r.2)
  | seq a b => a.ways.andThen b.ways
  | alt a b => a.ways.orElse b.ways
  | rep greed min max body => body.ways.rep greed min max

theorem run_tries : (p : Pattern) → p.run.Tries p.ways
  | empty => .stay
  | char cls => by
      intro k c caps
      cases hn : c.next? with
      | none => simp [run, ways, hn]
      | some r => by_cases hx : cls.contains r.1 <;> simp [run, ways, hn, hx]
  | anchor a => by
      intro k c caps
      by_cases ha : a.holds c <;> simp [run, ways, ha]
  | group index body => by
      intro k c caps
      simp only [run, ways, run_tries body _ c caps, List.findSome?_map]
      rfl
  | seq a b => (run_tries a).andThen (run_tries b)
  | alt a b => (run_tries a).orElse (run_tries b)
  | rep greed min max body => (run_tries body).rep greed min max

/-- The match at a place is the first way through the pattern. -/
theorem matchAt_eq (p : Pattern) (c : Cursor) :
    p.matchAt c = (p.ways c []).head?.map fun r => ⟨c, r.1, r.2⟩ := by
  rw [matchAt, run_tries p]
  cases p.ways c [] <;> rfl

theorem matchAt_eq_none_iff {p : Pattern} {c : Cursor} : p.matchAt c = none ↔ p.ways c [] = [] := by
  simp [matchAt_eq]

end Pattern

end Highlighter
