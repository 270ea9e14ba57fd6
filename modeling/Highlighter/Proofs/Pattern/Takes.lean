import Highlighter.Proofs.Pattern.Word
import Highlighter.Proofs.Text.Parts

/-!
What a group of a match takes of the text, and what stands around it: the ways to the group, through
its body, and on from there. A text with a way through a pattern has a match of it.
-/
namespace Highlighter

namespace Cursor

/-- A place is known by its text and by what stands before it. -/
theorem eq_between {c : Cursor} {pre post : Text} (htext : c.text = pre ++ post)
    (hoffset : c.offset = pre.byteLength) : c = .between pre.reverse post := by
  have hsplit : c.text.splitAt? c.offset = some (c.before.reverse, c.rest) :=
    Text.splitAt?_eq_some_iff.2 ⟨rfl, Text.byteLength_reverse _⟩
  rw [htext, hoffset, Text.splitAt?_byteLength] at hsplit
  obtain ⟨rfl, rfl⟩ : pre = c.before.reverse ∧ post = c.rest := by simpa using hsplit
  rw [List.reverse_reverse, between_sides]

@[simp] theorem between_inj {before before' rest rest' : Text} :
    between before rest = between before' rest' ↔ before = before' ∧ rest = rest' :=
  ⟨fun h => ⟨congrArg Cursor.before h, congrArg Cursor.rest h⟩, fun h => h.1 ▸ h.2 ▸ rfl⟩

/-- Going on over two texts from one place, one arrives at one place only with the same text. -/
theorem between_append_inj {part part' before rest rest' : Text} :
    between (part.reverse ++ before) rest = between (part'.reverse ++ before) rest' ↔
      part = part' ∧ rest = rest' := by
  simp

theorem start_reaches (c : Cursor) : (start c.text).Reaches c := ⟨c.before.reverse, rfl, by simp [start]⟩

end Cursor

/-- The places have the characters of a text between them. -/
def Cursor.Passes (c : Cursor) (part : Text) (d : Cursor) : Prop :=
  c.rest = part ++ d.rest ∧ d.before = part.reverse ++ c.before

/-- One goes on over a text of a kind and passes no group. -/
def Passage.Over (L : Text → Prop) : Passage := fun c caps d caps' =>
  caps' = caps ∧ ∃ part, L part ∧ c.Passes part d

theorem Passage.over_closed {L : Text → Prop} (hnil : L []) (happend : ∀ {a b}, L a → L b → L (a ++ b)) :
    (Over L).Closed where
  refl c caps := ⟨rfl, [], hnil, rfl, rfl⟩
  trans := by
    rintro c caps d _ e _ ⟨rfl, a, ha, har, hab⟩ ⟨rfl, b, hb, hbr, hbb⟩
    exact ⟨rfl, a ++ b, happend ha hb, by simp [har, hbr], by simp [hab, hbb]⟩

namespace Pattern

variable {c d : Cursor} {caps caps' : Captures} {r : Cursor × Captures} {cls : CharClass}

/-! ## Ways through more of the pieces -/

theorem way_cons {p : Pattern} {ps : List Pattern} {q : Cursor × Captures} (hp : q ∈ p.ways c caps)
    (hps : r ∈ (concat ps).ways q.1 q.2) : r ∈ (concat (p :: ps)).ways c caps :=
  mem_ways_concat_cons.2 ⟨q, hp, hps⟩

theorem way_nil : (c, caps) ∈ (concat []).ways c caps := mem_ways_concat_nil.2 rfl

theorem way_group (index : Nat) {body : Pattern} (h : (d, caps') ∈ body.ways c caps) :
    (d, ⟨index, c, d⟩ :: caps') ∈ (group index body).ways c caps :=
  mem_ways_group.2 ⟨d, caps', h, rfl⟩

theorem way_literal (cs : Text) {before rest : Text} :
    (.between (cs.reverse ++ before) rest, caps) ∈
      (literal cs).ways (.between before (cs ++ rest)) caps :=
  mem_ways_literal.2 ⟨rest, rfl, rfl⟩

theorem mem_ways_opt {p : Pattern} :
    r ∈ (opt p).ways c caps ↔ r ∈ p.ways c caps ∨ r = (c, caps) := by
  rw [ways_opt]
  exact List.mem_append.trans (or_congr_right List.mem_singleton)

theorem mem_stops {before rest : Text} :
    d ∈ stops cls before rest ↔
      ∃ part tail, rest = part ++ tail ∧ (∀ x ∈ part, cls.contains x = true) ∧
        d = .between (part.reverse ++ before) tail := by
  induction rest generalizing before with
  | nil =>
      constructor
      · intro hd
        exact ⟨[], [], rfl, by simp, List.mem_singleton.1 hd⟩
      · rintro ⟨part, tail, hrest, -, rfl⟩
        obtain ⟨rfl, rfl⟩ : part = [] ∧ tail = [] := by simpa using hrest
        exact List.mem_singleton.2 rfl
  | cons y rest ih =>
      constructor
      · intro hd
        rw [stops] at hd
        split at hd
        · rename_i hy
          rcases List.mem_append.1 hd with hd | hd
          · obtain ⟨part, tail, rfl, hpart, rfl⟩ := ih.1 hd
            exact ⟨y :: part, tail, rfl, List.forall_mem_cons.2 ⟨hy, hpart⟩, by simp⟩
          · exact ⟨[], y :: rest, rfl, by simp, List.mem_singleton.1 hd⟩
        · exact ⟨[], y :: rest, rfl, by simp, List.mem_singleton.1 hd⟩
      · rintro ⟨part, tail, hrest, hpart, rfl⟩
        rw [stops]
        cases part with
        | nil =>
            obtain rfl : y :: rest = tail := hrest
            split <;> simp
        | cons z part =>
            obtain ⟨rfl, rfl⟩ : y = z ∧ rest = part ++ tail := by simpa using hrest
            obtain ⟨hy, hpart⟩ := List.forall_mem_cons.1 hpart
            rw [if_pos hy]
            exact List.mem_append_left _ (ih.2 ⟨part, tail, rfl, hpart, by simp⟩)

theorem mem_ways_star_char :
    r ∈ (star (char cls)).ways c caps ↔
      ∃ part rest, c.rest = part ++ rest ∧ (∀ x ∈ part, cls.contains x = true) ∧
        r = (.between (part.reverse ++ c.before) rest, caps) := by
  rw [← c.between_sides, ways_star_char, List.mem_map]
  simp only [mem_stops, Cursor.between_before, Cursor.between_rest]
  constructor
  · rintro ⟨d, ⟨part, tail, hrest, hpart, rfl⟩, rfl⟩
    exact ⟨part, tail, hrest, hpart, rfl⟩
  · rintro ⟨part, tail, hrest, hpart, rfl⟩
    exact ⟨_, ⟨part, tail, hrest, hpart, rfl⟩, rfl⟩

theorem ways_plus_char_cons {before rest : Text} {x : Char} :
    (plus (char cls)).ways (.between before (x :: rest)) caps =
      if cls.contains x then (star (char cls)).ways (.between (x :: before) rest) caps else [] := by
  have hplus : (plus (char cls)).ways = Ways.stay.andThen ((char cls).ways.plus .greedy) := rfl
  rw [hplus, Ways.stay_andThen, ways_star_char]
  by_cases hx : cls.contains x
  · simp [Ways.plus, ways_char_cons, hx, star_char_eq_stops]
  · simp [Ways.plus, ways_char_cons, hx]

theorem first_plus_char {before rest part : Text} (hne : part ≠ [])
    (hpart : ∀ x ∈ part, cls.contains x = true) (hrest : ∀ x ∈ rest.head?, cls.contains x = false) :
    (plus (char cls)).ways.First (.between before (part ++ rest)) caps
      (.between (part.reverse ++ before) rest, caps) := by
  cases part with
  | nil => exact absurd rfl hne
  | cons x part =>
      obtain ⟨hx, hpart⟩ := List.forall_mem_cons.1 hpart
      rw [Ways.First, List.cons_append, ways_plus_char_cons, if_pos hx, List.reverse_cons,
        List.append_assoc]
      exact first_star_char hpart hrest

theorem mem_ways_plus_char :
    r ∈ (plus (char cls)).ways c caps ↔
      ∃ x part rest, c.rest = x :: (part ++ rest) ∧ cls.contains x = true ∧
        (∀ x ∈ part, cls.contains x = true) ∧
        r = (.between (part.reverse ++ x :: c.before) rest, caps) := by
  rw [← c.between_sides]
  cases c.rest with
  | nil => simp [plus, ways, Ways.rep, Ways.exactly, Ways.andThen, Ways.stay, Ways.plus]
  | cons y tail =>
      rw [ways_plus_char_cons]
      constructor
      · intro hr
        split at hr
        · rename_i hy
          obtain ⟨part, rest, htail, hpart, rfl⟩ := mem_ways_star_char.1 hr
          exact ⟨y, part, rest, congrArg (y :: ·) htail, hy, hpart, rfl⟩
        · cases hr
      · rintro ⟨x, part, rest, htail, hx, hpart, rfl⟩
        obtain ⟨rfl, rfl⟩ : y = x ∧ tail = part ++ rest := by simpa using htail
        rw [if_pos hx]
        exact mem_ways_star_char.2 ⟨part, rest, rfl, hpart, rfl⟩

theorem ways_concat_append (ps qs : List Pattern) :
    (concat (ps ++ qs)).ways = (concat ps).ways.andThen (concat qs).ways := by
  induction ps with
  | nil => exact (Ways.stay_andThen _).symm
  | cons p ps ih =>
      rw [List.cons_append, ways_concat_cons, ih, ways_concat_cons]
      funext c caps
      simp [Ways.andThen, List.flatMap_assoc]

/-! ## Where a group is found again -/

def hasIndex (index : Nat) : Pattern → Bool
  | empty | char _ | anchor _ => false
  | group i body => i == index || body.hasIndex index
  | seq a b | alt a b => a.hasIndex index || b.hasIndex index
  | rep _ _ _ body => body.hasIndex index

end Pattern

/-- The latest pass of a group stays the same. -/
def Passage.Unrecorded (index : Nat) : Passage := fun _ caps _ caps' =>
  caps'.find? (fun cap => cap.index == index) = caps.find? fun cap => cap.index == index

theorem Passage.unrecorded_closed (index : Nat) : (Unrecorded index).Closed where
  refl _ _ := rfl
  trans h h' := h'.trans h

namespace Pattern

theorem ways_unrecorded {index : Nat} :
    (p : Pattern) → p.hasIndex index = false → p.ways.Keep (.Unrecorded index)
  | empty, _ => .stay (Passage.unrecorded_closed index)
  | char cls, _ => fun c caps r hr => by
      obtain ⟨-, hcaps⟩ := ways_char_plain cls c caps r hr
      rw [hcaps]
      rfl
  | anchor a, _ => ways_anchor_keep (Passage.unrecorded_closed index) a
  | group i body, h => by
      intro c caps r hr
      simp only [hasIndex, Bool.or_eq_false_iff] at h
      obtain ⟨d, caps', hd, rfl⟩ := mem_ways_group.1 hr
      have hbody := ways_unrecorded body h.2 c caps _ hd
      simpa [Passage.Unrecorded, List.find?_cons, h.1] using hbody
  | seq a b, h => by
      simp only [hasIndex, Bool.or_eq_false_iff] at h
      exact (ways_unrecorded a h.1).andThen (Passage.unrecorded_closed index) (ways_unrecorded b h.2)
  | alt a b, h => by
      simp only [hasIndex, Bool.or_eq_false_iff] at h
      exact (ways_unrecorded a h.1).orElse (ways_unrecorded b h.2)
  | rep greed min max body, h =>
      (ways_unrecorded body h).rep (Passage.unrecorded_closed index) greed min max

/-- A match in the text has the part as its group. -/
def Takes (p : Pattern) (index : Nat) (pre part post : Text) : Prop :=
  ∃ m ∈ p.findAll (pre ++ (part ++ post)),
    m.group? index = some (pre.byteLength, (pre ++ part).byteLength)

theorem exists_takes {p : Pattern} {text : Text} {m : Match} (hm : m ∈ p.findAll text) {index : Nat}
    {range : Nat × Nat} (hgroup : m.group? index = some range) :
    ∃ pre part post, text = pre ++ (part ++ post) ∧
      range = (pre.byteLength, (pre ++ part).byteLength) ∧ p.Takes index pre part post := by
  have hat := matchAt_of_mem_findAll hm
  obtain ⟨⟨pre, rest, htext, hpre⟩, hstop⟩ := Match.group?_isBoundary hat hgroup
  rw [text_of_mem_findAll hm] at htext hstop
  subst htext
  have hle := (Match.group?_within hat hgroup).2.1
  obtain ⟨part, post, rfl, hpart⟩ := hstop.drop (by omega)
  have hrange : range = (pre.byteLength, (pre ++ part).byteLength) := by rw [hpre, hpart]
  exact ⟨pre, part, post, rfl, hrange, m, hm, hrange ▸ hgroup⟩

/-- What a group takes of a text, it takes from one match. -/
theorem Takes.eq_of_meet {p : Pattern} {index : Nat} {pre part post pre' part' post' : Text}
    (h : p.Takes index pre part post) (h' : p.Takes index pre' part' post')
    (htext : pre ++ (part ++ post) = pre' ++ (part' ++ post')) {pos : Nat}
    (hpos : Text.InPart pre part pos) (hpos' : Text.InPart pre' part' pos) :
    pre = pre' ∧ part = part' := by
  obtain ⟨m, hm, hgroup⟩ := h
  obtain ⟨m', hm', hgroup'⟩ := h'
  rw [← htext] at hm'
  by_cases hmm : m = m'
  · subst hmm
    obtain ⟨hstart, hstop⟩ :
        pre.byteLength = pre'.byteLength ∧ (pre ++ part).byteLength = (pre' ++ part').byteLength := by
      rw [hgroup] at hgroup'
      simpa using hgroup'
    obtain ⟨rfl, hrest⟩ := Text.eq_of_byteLength htext hstart
    exact ⟨rfl, (Text.eq_of_byteLength hrest (by simpa using hstop)).1⟩
  · have hwithin := Match.group?_within (matchAt_of_mem_findAll hm) hgroup
    have hwithin' := Match.group?_within (matchAt_of_mem_findAll hm') hgroup'
    have hapart := findAll_apart hm hm' hmm
    simp only [Text.InPart] at hwithin hwithin' hpos hpos'
    omega

section Group

variable {lead tail : List Pattern} {body : Pattern} {index : Nat} {text pre part post : Text}
  {m : Match}

theorem find?_of_way (hindex : (concat tail).hasIndex index = false)
    (h : r ∈ (concat tail).ways d (⟨index, c, d⟩ :: caps)) :
    r.2.find? (fun cap => cap.index == index) = some ⟨index, c, d⟩ := by
  have hkept := ways_unrecorded (concat tail) hindex _ _ _ h
  rw [Passage.Unrecorded] at hkept
  rw [hkept]
  simp

/-- A match passes what leads to its group, then the group's body, then what follows. -/
theorem exists_group_of_mem_findAll (hindex : index ≠ 0) (htail : (concat tail).hasIndex index = false)
    (hm : m ∈ (concat (lead ++ group index body :: tail)).findAll text) :
    ∃ c d caps caps', c.text = text ∧ d.text = text ∧
      m.group? index = some (c.offset, d.offset) ∧ (c, caps) ∈ (concat lead).ways m.first [] ∧
      (d, caps') ∈ body.ways c caps ∧
      (m.last, m.captures) ∈ (concat tail).ways d (⟨index, c, d⟩ :: caps') := by
  have hway := Match.mem_ways (matchAt_of_mem_findAll hm)
  rw [ways_concat_append, Ways.andThen, List.mem_flatMap] at hway
  obtain ⟨⟨c, caps⟩, hlead, hway⟩ := hway
  obtain ⟨_, hgroup, hrest⟩ := mem_ways_concat_cons.1 hway
  obtain ⟨d, caps', hbody, rfl⟩ := mem_ways_group.1 hgroup
  have hfirst := ((concat lead).ways_onward _ _ _ hlead).1
  have hlast := (body.ways_onward _ _ _ hbody).1
  have htext := text_of_mem_findAll hm
  refine ⟨c, d, caps, caps', hfirst.text_eq.trans htext,
    hlast.text_eq.trans (hfirst.text_eq.trans htext), ?_, hlead, hbody, hrest⟩
  have hfind : m.captures.find? (fun cap => cap.index == index) = some ⟨index, c, d⟩ :=
    find?_of_way htail hrest
  simp [Match.group?, hindex, hfind]

theorem Takes.ways (hindex : index ≠ 0) (htail : (concat tail).hasIndex index = false)
    (h : (concat (lead ++ group index body :: tail)).Takes index pre part post) :
    ∃ first caps caps' r, first.text = pre ++ (part ++ post) ∧
      (.between pre.reverse (part ++ post), caps) ∈ (concat lead).ways first [] ∧
      (.between (part.reverse ++ pre.reverse) post, caps') ∈
        body.ways (.between pre.reverse (part ++ post)) caps ∧
      r ∈ (concat tail).ways (.between (part.reverse ++ pre.reverse) post)
        (⟨index, .between pre.reverse (part ++ post), .between (part.reverse ++ pre.reverse) post⟩ ::
          caps') := by
  obtain ⟨m, hm, hgroup⟩ := h
  obtain ⟨c, d, caps, caps', hc, hd, hgroup', hlead, hbody, hrest⟩ :=
    exists_group_of_mem_findAll hindex htail hm
  obtain ⟨hfirst, hlast⟩ :
      pre.byteLength = c.offset ∧ (pre ++ part).byteLength = d.offset := by
    simpa [hgroup] using hgroup'
  obtain rfl := Cursor.eq_between hc hfirst.symm
  have hd' := Cursor.eq_between (hd.trans (List.append_assoc ..).symm) hlast.symm
  rw [List.reverse_append] at hd'
  subst hd'
  exact ⟨m.first, caps, caps', _, text_of_mem_findAll hm, hlead, hbody, hrest⟩

/-- A group that ends the pattern takes the most preferred way through its body. -/
theorem Takes.first (hindex : index ≠ 0)
    (h : (concat (lead ++ [group index body])).Takes index pre part post) :
    ∃ first caps caps', first.text = pre ++ (part ++ post) ∧
      (.between pre.reverse (part ++ post), caps) ∈ (concat lead).ways first [] ∧
      body.ways.First (.between pre.reverse (part ++ post)) caps
        (.between (part.reverse ++ pre.reverse) post, caps') := by
  obtain ⟨m, hm, hgroup⟩ := h
  have hat := matchAt_of_mem_findAll hm
  rw [matchAt_eq] at hat
  obtain ⟨r, hr, hmatch⟩ := Option.map_eq_some_iff.1 hat
  rw [ways_concat_append, Ways.andThen, List.head?_flatMap] at hr
  obtain ⟨⟨c, caps⟩, hlead, hhead⟩ := List.exists_of_findSome?_eq_some hr
  have hgroups : (concat [group index body]).ways c caps =
      (body.ways c caps).map fun r => (r.1, ⟨index, c, r.1⟩ :: r.2) := rfl
  rw [hgroups, List.head?_map] at hhead
  obtain ⟨⟨d, caps'⟩, hbody, rfl⟩ := Option.map_eq_some_iff.1 hhead
  have hreach := ((concat lead).ways_onward _ _ _ hlead).1
  have hc : c.text = pre ++ (part ++ post) := hreach.text_eq.trans (text_of_mem_findAll hm)
  have hd : d.text = (pre ++ part) ++ post := by
    rw [((body.ways_onward _ _ _ (List.mem_of_head? hbody)).1).text_eq, hc, List.append_assoc]
  have hcaptures : m.captures = ⟨index, c, d⟩ :: caps' := by rw [← hmatch]
  obtain ⟨hfirst, hlast⟩ :
      c.offset = pre.byteLength ∧ d.offset = (pre ++ part).byteLength := by
    simpa [Match.group?, hindex, hcaptures] using hgroup
  obtain rfl := Cursor.eq_between hc hfirst
  have hd' := Cursor.eq_between hd hlast
  rw [List.reverse_append] at hd'
  subst hd'
  exact ⟨m.first, caps, caps', text_of_mem_findAll hm, hlead, hbody⟩

/-- The most preferred way goes over one text only. -/
theorem part_eq_of_first {p : Pattern} {before t rest : Text} {caps'' : Captures}
    (h : p.ways.First (.between before (part ++ post)) caps
      (.between (part.reverse ++ before) post, caps'))
    (h' : p.ways.First (.between before (t ++ rest)) caps
      (.between (t.reverse ++ before) rest, caps''))
    (htext : part ++ post = t ++ rest) : part = t ∧ post = rest := by
  rw [htext] at h
  have heq := Option.some.inj (h.symm.trans h')
  exact Cursor.between_append_inj.1 (congrArg Prod.fst heq)

end Group

/-! ## Characters that no group takes -/

def avoids (x : Char) : Pattern → Bool
  | empty | anchor _ => true
  | char cls => !cls.contains x
  | group _ body | rep _ _ _ body => body.avoids x
  | seq a b | alt a b => a.avoids x && b.avoids x

def groupsAvoid (x : Char) : Pattern → Bool
  | empty | char _ | anchor _ => true
  | group _ body => body.avoids x && body.groupsAvoid x
  | seq a b | alt a b => a.groupsAvoid x && b.groupsAvoid x
  | rep _ _ _ body => body.groupsAvoid x

end Pattern

def Cursor.PassesNo (x : Char) (c d : Cursor) : Prop := ∃ part, x ∉ part ∧ c.Passes part d

/-- One does not go over the character, whatever groups are passed. -/
def Passage.Without (x : Char) : Passage := fun c _ d _ => c.PassesNo x d

theorem Passage.without_closed (x : Char) : (Without x).Closed where
  refl c _ := ⟨[], by simp, rfl, rfl⟩
  trans := by
    rintro c _ d _ e _ ⟨a, ha, har, hab⟩ ⟨b, hb, hbr, hbb⟩
    exact ⟨a ++ b, by simp [ha, hb], by simp [har, hbr], by simp [hab, hbb]⟩

/-- The new groups do not hold the character. -/
def Passage.GroupsWithout (x : Char) : Passage := fun _ caps _ caps' =>
  ∃ new, caps' = new ++ caps ∧ ∀ cap ∈ new, cap.first.PassesNo x cap.last

theorem Passage.groupsWithout_closed (x : Char) : (GroupsWithout x).Closed where
  refl _ _ := ⟨[], rfl, by simp⟩
  trans := by
    rintro _ caps _ _ _ _ ⟨new, rfl, hnew⟩ ⟨new', rfl, hnew'⟩
    refine ⟨new' ++ new, by simp, fun cap hcap => ?_⟩
    rcases List.mem_append.1 hcap with hcap | hcap
    · exact hnew' cap hcap
    · exact hnew cap hcap

namespace Pattern

variable {x : Char}

theorem ways_without : (p : Pattern) → p.avoids x = true → p.ways.Keep (.Without x)
  | empty, _ => .stay (Passage.without_closed x)
  | char cls, h => by
      intro c caps r hr
      obtain ⟨y, rest, hrest, hy, rfl⟩ := mem_ways_char.1 hr
      have hne : x ≠ y := by
        rintro rfl
        simp [avoids, hy] at h
      exact ⟨[y], by simpa using hne, by simpa using hrest, by simp⟩
  | anchor a, _ => ways_anchor_keep (Passage.without_closed x) a
  | group index body, h => by
      intro c caps r hr
      obtain ⟨d, caps', hd, rfl⟩ := mem_ways_group.1 hr
      exact ways_without body h c caps (d, caps') hd
  | seq a b, h => by
      simp only [avoids, Bool.and_eq_true] at h
      exact (ways_without a h.1).andThen (Passage.without_closed x) (ways_without b h.2)
  | alt a b, h => by
      simp only [avoids, Bool.and_eq_true] at h
      exact (ways_without a h.1).orElse (ways_without b h.2)
  | rep greed min max body, h =>
      (ways_without body h).rep (Passage.without_closed x) greed min max

theorem ways_groupsWithout :
    (p : Pattern) → p.groupsAvoid x = true → p.ways.Keep (.GroupsWithout x)
  | empty, _ => .stay (Passage.groupsWithout_closed x)
  | char cls, _ => fun c caps r hr => ⟨[], (ways_char_plain cls c caps r hr).2, by simp⟩
  | anchor a, _ => ways_anchor_keep (Passage.groupsWithout_closed x) a
  | group index body, h => by
      intro c caps r hr
      simp only [groupsAvoid, Bool.and_eq_true] at h
      obtain ⟨d, caps', hd, rfl⟩ := mem_ways_group.1 hr
      obtain ⟨new, hcaps, hnew⟩ := ways_groupsWithout body h.2 c caps _ hd
      exact ⟨⟨index, c, d⟩ :: new, congrArg _ hcaps,
        List.forall_mem_cons.2 ⟨ways_without body h.1 c caps _ hd, hnew⟩⟩
  | seq a b, h => by
      simp only [groupsAvoid, Bool.and_eq_true] at h
      exact (ways_groupsWithout a h.1).andThen (Passage.groupsWithout_closed x)
        (ways_groupsWithout b h.2)
  | alt a b, h => by
      simp only [groupsAvoid, Bool.and_eq_true] at h
      exact (ways_groupsWithout a h.1).orElse (ways_groupsWithout b h.2)
  | rep greed min max body, h =>
      (ways_groupsWithout body h).rep (Passage.groupsWithout_closed x) greed min max

/-- Some way through the pattern goes over the whole text. -/
def Matches (p : Pattern) (t : Text) : Prop :=
  ∃ caps, (Cursor.between t.reverse [], caps) ∈ p.ways (.start t) []

theorem Matches.not_mem {p : Pattern} {t : Text} (h : p.Matches t) (hp : p.avoids x = true) : x ∉ t := by
  obtain ⟨caps, hway⟩ := h
  obtain ⟨part, hpart, hrest, -⟩ := ways_without p hp _ _ _ hway
  have heq : t = part := by simpa [Cursor.start] using hrest
  exact heq ▸ hpart

theorem Takes.not_mem {p : Pattern} {index : Nat} {pre part post : Text}
    (h : p.Takes index pre part post) (hindex : index ≠ 0) (hp : p.groupsAvoid x = true) :
    x ∉ part := by
  obtain ⟨m, hm, hgroup⟩ := h
  have hat := matchAt_of_mem_findAll hm
  obtain ⟨new, hnew, hall⟩ := ways_groupsWithout p hp _ _ _ (Match.mem_ways hat)
  obtain rfl : m.captures = new := by simpa using hnew
  simp only [Match.group?, hindex, ↓reduceIte] at hgroup
  obtain ⟨cap, hcap, hrange⟩ := Option.map_eq_some_iff.1 hgroup
  have hmem := List.mem_of_find?_eq_some hcap
  obtain ⟨part', hpart', hrest, hbefore⟩ := hall cap hmem
  obtain ⟨hfirst, hlast⟩ :
      cap.first.offset = pre.byteLength ∧ cap.last.offset = (pre ++ part).byteLength := by
    simpa using hrange
  obtain ⟨hreach, hbetween, -⟩ := Match.capture_between hat cap hmem
  have hc := Cursor.eq_between (hreach.text_eq.trans (text_of_mem_findAll hm)) hfirst
  have hd := Cursor.eq_between ((hbetween.text_eq.trans (hreach.text_eq.trans
    (text_of_mem_findAll hm))).trans (List.append_assoc ..).symm) hlast
  have heq : part = part' := by simpa [hc, hd] using hrest
  exact heq ▸ hpart'

/-! ## A text with a match -/

theorem exists_matchAt {p : Pattern} (hr : r ∈ p.ways c []) : ∃ m, p.matchAt c = some m := by
  rw [matchAt_eq]
  cases hways : p.ways c [] with
  | nil => simp [hways] at hr
  | cons q ways => exact ⟨_, rfl⟩

theorem exists_search {p : Pattern} (hcd : c.Reaches d) (hr : r ∈ p.ways d []) :
    ∃ m, p.search c = some m := by
  obtain ⟨m, hm⟩ := exists_matchAt hr
  obtain rfl := first_of_matchAt hm
  obtain ⟨m', hm', -⟩ := search_of_reaches hcd hm
  exact ⟨m', hm'⟩

/-- Where a pattern has a way, the text has a match. -/
theorem exists_mem_findAll {p : Pattern} (hr : r ∈ p.ways c []) : ∃ m, m ∈ p.findAll c.text := by
  obtain ⟨m, hm⟩ := exists_search c.start_reaches hr
  refine ⟨m, ?_⟩
  rw [findAll, hm]
  exact List.mem_cons_self

/-- Where there is a way, the group of some match takes something. -/
theorem exists_takes_of_way (lead tail : List Pattern) {body : Pattern} {index : Nat}
    (hindex : index ≠ 0) (htail : (concat tail).hasIndex index = false)
    (hr : r ∈ (concat (lead ++ group index body :: tail)).ways c []) :
    ∃ pre part post, c.text = pre ++ (part ++ post) ∧
      (concat (lead ++ group index body :: tail)).Takes index pre part post := by
  obtain ⟨m, hm⟩ := exists_mem_findAll hr
  obtain ⟨_, _, _, _, -, -, hgroup, -⟩ := exists_group_of_mem_findAll hindex htail hm
  obtain ⟨pre, part, post, htext, -, htakes⟩ := exists_takes hm hgroup
  exact ⟨pre, part, post, htext, htakes⟩

/-- The most preferred way from the start of the text is a match. -/
theorem takes_of_first {p : Pattern} {index : Nat} {pre part post : Text} (hindex : index ≠ 0)
    (hr : p.ways.First (.start (pre ++ (part ++ post))) [] r)
    (hfind : r.2.find? (fun cap => cap.index == index) =
      some ⟨index, .between pre.reverse (part ++ post), .between (part.reverse ++ pre.reverse) post⟩) :
    p.Takes index pre part post := by
  have hm : p.matchAt (.start (pre ++ (part ++ post))) =
      some ⟨.start (pre ++ (part ++ post)), r.1, r.2⟩ := by
    rw [matchAt_eq, hr]
    rfl
  have hmem : ⟨.start (pre ++ (part ++ post)), r.1, r.2⟩ ∈ p.findAll (pre ++ (part ++ post)) := by
    rw [findAll, search_eq_of_matchAt hm]
    exact List.mem_cons_self
  exact ⟨_, hmem, by simp [Match.group?, hindex, hfind, Cursor.offset, Nat.add_comm]⟩

end Pattern

end Highlighter
