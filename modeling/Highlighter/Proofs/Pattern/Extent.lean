import Highlighter.Proofs.Pattern.Ways

/-!
What a way through a pattern leaves behind: it goes on in the text, and the groups that it adds lie
on the way. Groups that do not hold each other lie one after the other.
-/
namespace Highlighter

/-- A relation between where one is, with the groups so far, before and after. -/
abbrev Passage := Cursor → Captures → Cursor → Captures → Prop

def Ways.Keep (w : Ways) (R : Passage) : Prop := ∀ c caps, ∀ r ∈ w c caps, R c caps r.1 r.2

/-- The relation holds of no step and of several steps. -/
structure Passage.Closed (R : Passage) : Prop where
  refl : ∀ c caps, R c caps c caps
  trans : ∀ {c caps d caps' e caps''}, R c caps d caps' → R d caps' e caps'' → R c caps e caps''

namespace Ways.Keep

variable {R : Passage} {w w' : Ways}

theorem stay (hR : R.Closed) : Keep stay R := by
  intro c caps r hr
  obtain rfl := List.mem_singleton.1 hr
  exact hR.refl c caps

theorem andThen (hR : R.Closed) (h : w.Keep R) (h' : w'.Keep R) : (w.andThen w').Keep R := by
  intro c caps r hr
  obtain ⟨q, hq, hr⟩ := List.mem_flatMap.1 hr
  exact hR.trans (h c caps q hq) (h' q.1 q.2 r hr)

theorem orElse (h : w.Keep R) (h' : w'.Keep R) : (w.orElse w').Keep R := by
  intro c caps r hr
  rcases List.mem_append.1 hr with hr | hr
  · exact h c caps r hr
  · exact h' c caps r hr

theorem optional (hR : R.Closed) (greed : Greed) (h : w.Keep R) : (Ways.optional greed w).Keep R := by
  cases greed with
  | greedy => exact h.orElse (stay hR)
  | lazy => exact (stay hR).orElse h

theorem exactly (hR : R.Closed) (h : w.Keep R) (n : Nat) : (w.exactly n).Keep R := by
  induction n with
  | zero => exact stay hR
  | succ n ih => exact h.andThen hR ih

theorem upTo (hR : R.Closed) (greed : Greed) (h : w.Keep R) (n : Nat) : (w.upTo greed n).Keep R := by
  induction n with
  | zero => exact stay hR
  | succ n ih => exact optional hR greed (h.andThen hR ih)

theorem star (hR : R.Closed) (greed : Greed) (h : w.Keep R) (n : Nat) : (w.star greed n).Keep R := by
  induction n with
  | zero => exact stay hR
  | succ n ih =>
      refine optional hR greed fun c caps r hr => ?_
      obtain ⟨q, hq, hr⟩ := List.mem_flatMap.1 hr
      split at hr
      · exact hR.trans (h c caps q hq) (ih q.1 q.2 r hr)
      · cases hr

theorem plus (hR : R.Closed) (greed : Greed) (h : w.Keep R) : (w.plus greed).Keep R := by
  intro c caps r hr
  obtain ⟨q, hq, hr⟩ := List.mem_flatMap.1 hr
  split at hr
  · exact hR.trans (h c caps q hq) (h.star hR greed _ q.1 q.2 r hr)
  · exact hR.trans (h c caps q hq) (stay hR q.1 q.2 r hr)

theorem rep (hR : R.Closed) (greed : Greed) (min : Nat) (max : Option Nat) (h : w.Keep R) :
    (w.rep greed min max).Keep R := by
  match max, min with
  | some max, min => exact (h.exactly hR min).andThen hR (h.upTo hR greed (max - min))
  | none, 0 => exact optional hR greed (h.plus hR greed)
  | none, n + 1 => exact (h.exactly hR n).andThen hR (h.plus hR greed)

end Ways.Keep

namespace Pattern

variable {R : Passage}

theorem ways_char_keep (hchar : ∀ {c d x} caps, c.next? = some (x, d) → R c caps d caps)
    (cls : CharClass) : (char cls).ways.Keep R := by
  intro c caps r hr
  simp only [ways] at hr
  split at hr
  · rename_i x d hn
    split at hr
    · obtain rfl := List.mem_singleton.1 hr
      exact hchar caps hn
    · cases hr
  · cases hr

theorem ways_anchor_keep (hR : R.Closed) (a : Anchor) : (anchor a).ways.Keep R := by
  intro c caps r hr
  simp only [ways] at hr
  split at hr
  · exact Ways.Keep.stay hR c caps r hr
  · cases hr

/-- What one step keeps and a group keeps, every way through a pattern keeps. -/
theorem ways_keep (hR : R.Closed)
    (hchar : ∀ {c d x} caps, c.next? = some (x, d) → R c caps d caps)
    (hgroup : ∀ {c caps d caps'} index, R c caps d caps' → R c caps d (⟨index, c, d⟩ :: caps')) :
    (p : Pattern) → p.ways.Keep R
  | empty => .stay hR
  | char cls => ways_char_keep hchar cls
  | anchor a => ways_anchor_keep hR a
  | group index body => by
      intro c caps r hr
      obtain ⟨q, hq, rfl⟩ := List.mem_map.1 hr
      exact hgroup index (ways_keep hR hchar hgroup body c caps q hq)
  | seq a b => (ways_keep hR hchar hgroup a).andThen hR (ways_keep hR hchar hgroup b)
  | alt a b => (ways_keep hR hchar hgroup a).orElse (ways_keep hR hchar hgroup b)
  | rep greed min max body => (ways_keep hR hchar hgroup body).rep hR greed min max

def hasGroup : Pattern → Bool
  | empty | char _ | anchor _ => false
  | group _ _ => true
  | seq a b | alt a b => a.hasGroup || b.hasGroup
  | rep _ _ _ body => body.hasGroup

/-- No group of the pattern holds another one. -/
def isFlat : Pattern → Bool
  | empty | char _ | anchor _ => true
  | group _ body => !body.hasGroup
  | seq a b | alt a b => a.isFlat && b.isFlat
  | rep _ _ _ body => body.isFlat

end Pattern

def Capture.Between (cap : Capture) (c d : Cursor) : Prop :=
  c.Reaches cap.first ∧ cap.first.Reaches cap.last ∧ cap.last.Reaches d

theorem Capture.Between.mono {cap : Capture} {c c' d d' : Cursor} (h : cap.Between c d)
    (hc : c'.Reaches c) (hd : d.Reaches d') : cap.Between c' d' :=
  ⟨hc.trans h.1, h.2.1, h.2.2.trans hd⟩

namespace Passage

/-- One goes on in the text, and the new groups lie on the way; a later group is related to every
earlier one. -/
def Along (S : Capture → Capture → Prop) : Passage := fun c caps d caps' =>
  c.Reaches d ∧ ∃ new, caps' = new ++ caps ∧ (∀ cap ∈ new, cap.Between c d) ∧ new.Pairwise S

def Onward : Passage := Along fun _ _ => True

/-- The new groups lie on the way one after the other. -/
def InTurn : Passage := Along fun later earlier => earlier.last.Reaches later.first

def Plain : Passage := fun c caps d caps' => c.Reaches d ∧ caps' = caps

/-- The new groups have indices up to a number. -/
def Numbered (n : Nat) : Passage := fun _ caps _ caps' =>
  ∃ new, caps' = new ++ caps ∧ ∀ cap ∈ new, cap.index ≤ n

theorem along_closed {S : Capture → Capture → Prop}
    (hS : ∀ {c d e later earlier}, earlier.Between c d → later.Between d e → S later earlier) :
    (Along S).Closed where
  refl c caps := ⟨.refl c, [], rfl, by simp, .nil⟩
  trans := by
    rintro c caps d _ e _ ⟨hcd, new, rfl, hnew, hturn⟩ ⟨hde, new', rfl, hnew', hturn'⟩
    refine ⟨hcd.trans hde, new' ++ new, by simp, fun cap hcap => ?_, ?_⟩
    · rcases List.mem_append.1 hcap with hcap | hcap
      · exact (hnew' cap hcap).mono hcd (.refl e)
      · exact (hnew cap hcap).mono (.refl c) hde
    · exact List.pairwise_append.2 ⟨hturn', hturn, fun later hl earlier he =>
        hS (hnew earlier he) (hnew' later hl)⟩

theorem onward_closed : Onward.Closed := along_closed fun _ _ => trivial

theorem inTurn_closed : InTurn.Closed :=
  along_closed fun hearlier hlater => hearlier.2.2.trans hlater.1

theorem plain_closed : Plain.Closed where
  refl c _ := ⟨.refl c, rfl⟩
  trans h h' := ⟨h.1.trans h'.1, h'.2.trans h.2⟩

theorem numbered_closed (n : Nat) : (Numbered n).Closed where
  refl _ _ := ⟨[], rfl, by simp⟩
  trans := by
    rintro _ caps _ _ _ _ ⟨new, rfl, hnew⟩ ⟨new', rfl, hnew'⟩
    exact ⟨new' ++ new, by simp, List.forall_mem_append.2 ⟨hnew', hnew⟩⟩

theorem Plain.along {S : Capture → Capture → Prop} {c caps d caps'} (h : Plain c caps d caps') :
    Along S c caps d caps' :=
  ⟨h.1, [], h.2, by simp, .nil⟩

end Passage

namespace Pattern

theorem ways_onward (p : Pattern) : p.ways.Keep .Onward := by
  refine ways_keep Passage.onward_closed ?_ ?_ p
  · intro c d x _ h
    exact Passage.Plain.along ⟨Cursor.reaches_of_next? h, rfl⟩
  · rintro c caps d _ index ⟨hcd, new, rfl, hnew, hturn⟩
    refine ⟨hcd, ⟨index, c, d⟩ :: new, rfl, fun cap hcap => ?_, .cons (by simp) hturn⟩
    rcases List.mem_cons.1 hcap with rfl | hcap
    · exact ⟨.refl c, hcd, .refl d⟩
    · exact hnew cap hcap

theorem ways_char_plain (cls : CharClass) : (char cls).ways.Keep .Plain :=
  ways_char_keep (fun _ h => ⟨Cursor.reaches_of_next? h, rfl⟩) cls

theorem ways_plain : (p : Pattern) → p.hasGroup = false → p.ways.Keep .Plain
  | empty, _ => .stay Passage.plain_closed
  | char cls, _ => ways_char_plain cls
  | anchor a, _ => ways_anchor_keep Passage.plain_closed a
  | seq a b, h => by
      simp only [hasGroup, Bool.or_eq_false_iff] at h
      exact (ways_plain a h.1).andThen Passage.plain_closed (ways_plain b h.2)
  | alt a b, h => by
      simp only [hasGroup, Bool.or_eq_false_iff] at h
      exact (ways_plain a h.1).orElse (ways_plain b h.2)
  | rep greed min max body, h => (ways_plain body h).rep Passage.plain_closed greed min max

theorem ways_inTurn : (p : Pattern) → p.isFlat = true → p.ways.Keep .InTurn
  | empty, _ => .stay Passage.inTurn_closed
  | char cls, _ => fun c caps r hr => (ways_char_plain cls c caps r hr).along
  | anchor a, _ => ways_anchor_keep Passage.inTurn_closed a
  | group index body, h => by
      intro c caps r hr
      obtain ⟨q, hq, rfl⟩ := List.mem_map.1 hr
      simp only [isFlat, Bool.not_eq_true'] at h
      obtain ⟨hreach, hcaps⟩ := ways_plain body h c caps q hq
      refine ⟨hreach, [⟨index, c, q.1⟩], by simp [hcaps], fun cap hcap => ?_, List.pairwise_singleton ..⟩
      obtain rfl := List.mem_singleton.1 hcap
      exact ⟨.refl c, hreach, .refl q.1⟩
  | seq a b, h => by
      simp only [isFlat, Bool.and_eq_true] at h
      exact (ways_inTurn a h.1).andThen Passage.inTurn_closed (ways_inTurn b h.2)
  | alt a b, h => by
      simp only [isFlat, Bool.and_eq_true] at h
      exact (ways_inTurn a h.1).orElse (ways_inTurn b h.2)
  | rep greed min max body, h => (ways_inTurn body h).rep Passage.inTurn_closed greed min max

/-- A way through a pattern passes no other groups than the pattern counts. -/
theorem ways_numbered {n : Nat} : (p : Pattern) → p.groupCount ≤ n → p.ways.Keep (.Numbered n)
  | empty, _ => .stay (Passage.numbered_closed n)
  | char cls, _ => ways_char_keep (fun _ _ => ⟨[], rfl, by simp⟩) cls
  | anchor a, _ => ways_anchor_keep (Passage.numbered_closed n) a
  | group index body, h => by
      intro c caps r hr
      obtain ⟨q, hq, rfl⟩ := List.mem_map.1 hr
      obtain ⟨hindex, hbody⟩ := Nat.max_le.1 h
      obtain ⟨new, hcaps, hnew⟩ := ways_numbered body hbody c caps q hq
      exact ⟨⟨index, c, q.1⟩ :: new, by simp [hcaps], List.forall_mem_cons.2 ⟨hindex, hnew⟩⟩
  | seq a b, h =>
      (ways_numbered a (Nat.max_le.1 h).1).andThen (Passage.numbered_closed n)
        (ways_numbered b (Nat.max_le.1 h).2)
  | alt a b, h => (ways_numbered a (Nat.max_le.1 h).1).orElse (ways_numbered b (Nat.max_le.1 h).2)
  | rep greed min max body, h => (ways_numbered body h).rep (Passage.numbered_closed n) greed min max

end Pattern

end Highlighter
