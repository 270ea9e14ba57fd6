import Highlighter.Proofs.Pattern.Search

/-! The ways through the pieces that patterns are put together from: literals, runs, choices. -/
namespace Highlighter

namespace Ways

theorem andThen_stay (w : Ways) : w.andThen stay = w := by
  funext c caps
  simp [andThen, stay]

theorem stay_andThen (w : Ways) : stay.andThen w = w := by
  funext c caps
  simp [andThen, stay]

/-- The preferred way. -/
def First (w : Ways) (c : Cursor) (caps : Captures) (r : Cursor × Captures) : Prop :=
  (w c caps).head? = some r

namespace First

variable {a b w : Ways} {c : Cursor} {caps : Captures} {r r' : Cursor × Captures}

theorem stay : First .stay c caps (c, caps) := rfl

theorem andThen (ha : a.First c caps r) (hb : b.First r.1 r.2 r') :
    (a.andThen b).First c caps r' := by
  obtain ⟨as, has⟩ := List.head?_eq_some_iff.1 ha
  obtain ⟨bs, hbs⟩ := List.head?_eq_some_iff.1 hb
  simp [First, Ways.andThen, has, hbs]

theorem orElse_left (ha : a.First c caps r) : (a.orElse b).First c caps r := by
  obtain ⟨as, has⟩ := List.head?_eq_some_iff.1 ha
  simp [First, Ways.orElse, has]

theorem orElse_right (ha : a c caps = []) (hb : b.First c caps r) : (a.orElse b).First c caps r := by
  simpa [First, Ways.orElse, ha] using hb

theorem optional_some (ha : a.First c caps r) : (Ways.optional .greedy a).First c caps r :=
  orElse_left ha

theorem optional_none (ha : a c caps = []) : (Ways.optional .greedy a).First c caps (c, caps) :=
  orElse_right ha stay

end First

/-- Going on in the preferred way as long as there is one, and always forward. -/
inductive Runs (w : Ways) : Cursor → Captures → Cursor × Captures → Prop
  | done {c caps} (h : w c caps = []) : Runs w c caps (c, caps)
  | more {c caps r r'} (h : w.First c caps r) (hr : r.1.ahead < c.ahead) (hrest : Runs w r.1 r.2 r') :
      Runs w c caps r'

namespace Runs

variable {w : Ways} {c : Cursor} {caps : Captures} {r : Cursor × Captures}

theorem star (h : w.Runs c caps r) {bound : Nat} (hb : c.ahead ≤ bound) :
    (w.star .greedy bound).First c caps r := by
  induction h generalizing bound with
  | done h =>
      cases bound with
      | zero => rfl
      | succ bound => simp [First, Ways.star, Ways.optional, Ways.orElse, h, Ways.stay]
  | more h hr _ ih =>
      cases bound with
      | zero => omega
      | succ bound =>
          obtain ⟨ws, hws⟩ := List.head?_eq_some_iff.1 h
          obtain ⟨rs, hrs⟩ := List.head?_eq_some_iff.1 (@ih bound (by omega))
          simp [First, Ways.star, Ways.optional, Ways.orElse, hws, hr, hrs]

/-- A greedy repetition prefers to run as far as it can. -/
theorem rep (h : w.Runs c caps r) : (w.rep .greedy 0 none).First c caps r := by
  cases h with
  | done h => exact .optional_none (by simp [Ways.plus, h])
  | more h hr hrest =>
      obtain ⟨ws, hws⟩ := List.head?_eq_some_iff.1 h
      obtain ⟨rs, hrs⟩ := List.head?_eq_some_iff.1 (hrest.star (Nat.le_refl _))
      exact .optional_some (by simp [First, Ways.plus, hws, hr, hrs])

end Runs

end Ways

namespace Pattern

variable {cls : CharClass} {before rest : Text} {x : Char} {caps : Captures}

theorem ways_char_cons :
    (char cls).ways (.between before (x :: rest)) caps =
      if cls.contains x then [(.between (x :: before) rest, caps)] else [] := by
  simp [ways]

theorem ways_textStart : textStart.ways (.between before rest) caps =
    if before = [] then [(.between before rest, caps)] else [] := by
  cases before <;> simp [textStart, ways, Anchor.holds]

theorem ways_textEnd : textEnd.ways (.between before rest) caps =
    if rest = [] then [(.between before rest, caps)] else [] := by
  cases rest <;> simp [textEnd, ways, Anchor.holds]

theorem ways_concat_cons (p : Pattern) (ps : List Pattern) :
    (concat (p :: ps)).ways = p.ways.andThen (concat ps).ways := by
  cases ps with
  | nil => exact p.ways.andThen_stay.symm
  | cons q ps => rfl

theorem first_concat_nil {c : Cursor} : (concat []).ways.First c caps (c, caps) := rfl

theorem first_concat_cons {p : Pattern} {ps : List Pattern} {c : Cursor} {q r : Cursor × Captures}
    (hp : p.ways.First c caps q) (hps : (concat ps).ways.First q.1 q.2 r) :
    (concat (p :: ps)).ways.First c caps r := by
  rw [ways_concat_cons]
  exact hp.andThen hps

theorem ways_firstOf_nil : (firstOf []).ways (.between before rest) caps = [] := by
  cases rest with
  | nil => rfl
  | cons x rest => simp [firstOf, ways_char_cons, CharClass.contains_empty]

theorem ways_firstOf_cons (p : Pattern) (ps : List Pattern) :
    (firstOf (p :: ps)).ways (.between before rest) caps =
      p.ways (.between before rest) caps ++ (firstOf ps).ways (.between before rest) caps := by
  cases ps with
  | nil => rw [ways_firstOf_nil, List.append_nil]; rfl
  | cons q ps => rfl

theorem ways_literal_append (cs : Text) :
    (literal cs).ways (.between before (cs ++ rest)) caps =
      [(.between (cs.reverse ++ before) rest, caps)] := by
  induction cs generalizing before with
  | nil => rfl
  | cons x cs ih =>
      rw [literal, List.map_cons, ways_concat_cons, ← literal, List.cons_append, Ways.andThen,
        ways_char_cons]
      simp [CharClass.contains, ih]

theorem ways_literal_eq_nil {cs : Text} (h : ¬ cs <+: rest) :
    (literal cs).ways (.between before rest) caps = [] := by
  induction cs generalizing before rest with
  | nil => simp at h
  | cons x cs ih =>
      rw [literal, List.map_cons, ways_concat_cons, ← literal, Ways.andThen]
      cases rest with
      | nil => rfl
      | cons y rest =>
          by_cases hx : y = x
          · subst hx
            simp [ways_char_cons, CharClass.contains, ih (by simpa using h)]
          · simp [ways_char_cons, CharClass.contains, hx]

theorem ways_opt (p : Pattern) : (opt p).ways = Ways.optional .greedy p.ways := by
  have hrep : (opt p).ways =
      Ways.stay.andThen (Ways.optional .greedy (p.ways.andThen Ways.stay)) := rfl
  rw [hrep, Ways.stay_andThen, Ways.andThen_stay]

theorem first_opt_some {p : Pattern} {c : Cursor} {r : Cursor × Captures}
    (h : p.ways.First c caps r) : (opt p).ways.First c caps r := by
  rw [ways_opt]
  exact .optional_some h

theorem first_opt_none {p : Pattern} {c : Cursor} (h : p.ways c caps = []) :
    (opt p).ways.First c caps (c, caps) := by
  rw [ways_opt]
  exact .optional_none h

theorem first_anchor {a : Anchor} {c : Cursor} (h : a.holds c = true) :
    (anchor a).ways.First c caps (c, caps) := by
  simp [Ways.First, ways, h]

theorem first_group {index : Nat} {body : Pattern} {c d : Cursor} {caps' : Captures}
    (h : body.ways.First c caps (d, caps')) :
    (group index body).ways.First c caps (d, ⟨index, c, d⟩ :: caps') := by
  rw [Ways.First, ways, List.head?_map, h]
  rfl

theorem first_char (hx : cls.contains x = true) :
    (char cls).ways.First (.between before (x :: rest)) caps (.between (x :: before) rest, caps) := by
  simp [Ways.First, ways_char_cons, hx]

theorem first_literal (cs : Text) :
    (literal cs).ways.First (.between before (cs ++ rest)) caps
      (.between (cs.reverse ++ before) rest, caps) := by
  simp [Ways.First, ways_literal_append]

theorem matchAt_literal_append (cs : Text) :
    (literal cs).matchAt (.between before (cs ++ rest)) =
      some ⟨.between before (cs ++ rest), .between (cs.reverse ++ before) rest, []⟩ := by
  rw [matchAt_eq, ways_literal_append]
  rfl

theorem matchAt_literal_eq_none {cs : Text} (h : ¬ cs <+: rest) :
    (literal cs).matchAt (.between before rest) = none :=
  matchAt_eq_none_iff.2 (ways_literal_eq_nil h)

theorem search_textEnd (before rest : Text) :
    textEnd.search (.between before rest) =
      some ⟨.between (rest.reverse ++ before) [], .between (rest.reverse ++ before) [], []⟩ := by
  induction rest generalizing before with
  | nil => simp [search_between_nil, matchAt_eq, ways_textEnd]
  | cons x rest ih =>
      have hnone : textEnd.matchAt (.between before (x :: rest)) = none := by
        simp [matchAt_eq, ways_textEnd]
      rw [search_between_cons, hnone, Option.none_or, ih]
      simp

theorem runs_char (cls : CharClass) (before rest : Text) (caps : Captures) :
    (char cls).ways.Runs (.between before rest) caps
      (.between ((rest.takeWhile cls.contains).reverse ++ before) (rest.dropWhile cls.contains),
        caps) := by
  induction rest generalizing before with
  | nil => exact .done rfl
  | cons x rest ih =>
      by_cases hx : cls.contains x
      · have hfirst : (char cls).ways.First (.between before (x :: rest)) caps
            (.between (x :: before) rest, caps) := by
          simp [Ways.First, ways_char_cons, hx]
        have hrest := Ways.Runs.more hfirst (by simp) (ih (x :: before))
        simpa [List.takeWhile_cons, List.dropWhile_cons, hx] using hrest
      · have hdone : (char cls).ways (.between before (x :: rest)) caps = [] := by
          simp [ways_char_cons, hx]
        simpa [List.takeWhile_cons, List.dropWhile_cons, hx] using Ways.Runs.done hdone

theorem first_star_char {part : Text} (hpart : ∀ x ∈ part, cls.contains x = true)
    (hrest : ∀ x ∈ rest.head?, cls.contains x = false) :
    (star (char cls)).ways.First (.between before (part ++ rest)) caps
      (.between (part.reverse ++ before) rest, caps) := by
  have htake : (part ++ rest).takeWhile cls.contains = part := by
    rw [List.takeWhile_append_of_pos hpart]
    cases rest with
    | nil => simp
    | cons x rest => simp [hrest x rfl]
  have hdrop : (part ++ rest).dropWhile cls.contains = rest := by
    have hparts := List.takeWhile_append_dropWhile (p := cls.contains) (l := part ++ rest)
    rw [htake] at hparts
    exact List.append_cancel_left hparts
  have hruns := runs_char cls before (part ++ rest) caps
  rw [htake, hdrop] at hruns
  exact hruns.rep

/-- The places up to which one can go over characters of a class, the furthest first. -/
def stops (cls : CharClass) (before : Text) : Text → List Cursor
  | [] => [.between before []]
  | x :: rest =>
    if cls.contains x then stops cls (x :: before) rest ++ [.between before (x :: rest)]
    else [.between before (x :: rest)]

theorem star_char_eq_stops {bound : Nat} (h : rest.length ≤ bound) :
    (char cls).ways.star .greedy bound (.between before rest) caps =
      (stops cls before rest).map fun c => (c, caps) := by
  induction rest generalizing before bound with
  | nil =>
      cases bound with
      | zero => rfl
      | succ bound => rfl
  | cons x rest ih =>
      cases bound with
      | zero => simp at h
      | succ bound =>
          by_cases hx : cls.contains x
          · simp [Ways.star, Ways.optional, Ways.orElse, Ways.stay, ways_char_cons, stops, hx,
              ih (by simpa using h)]
          · simp [Ways.star, Ways.optional, Ways.orElse, Ways.stay, ways_char_cons, stops, hx]

theorem ways_star_char :
    (star (char cls)).ways (.between before rest) caps =
      (stops cls before rest).map fun c => (c, caps) := by
  have hstar : (star (char cls)).ways (.between before rest) caps =
      (char cls).ways.star .greedy rest.length (.between before rest) caps := by
    cases rest with
    | nil => rfl
    | cons x rest =>
        by_cases hx : cls.contains x
        · simp [star, ways, Ways.rep, Ways.optional, Ways.plus, Ways.star, Ways.orElse, hx]
        · simp [star, ways, Ways.rep, Ways.optional, Ways.plus, Ways.star, Ways.orElse, hx]
  rw [hstar, star_char_eq_stops (Nat.le_refl _)]

end Pattern

end Highlighter
