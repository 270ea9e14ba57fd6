import Highlighter.Style

/-!
What the words of a description ask for, by their places. A colour behind `on` is a background, any other
one is a foreground, and the last one of each kind counts.
-/
namespace Highlighter

/-- The word is the name in some ASCII case. -/
def Text.Spells (word : Text) (name : String) : Prop := word.map Char.toLower = name.toList

instance (word : Text) (name : String) : Decidable (word.Spells name) :=
  inferInstanceAs (Decidable (_ = _))

namespace Style

/-- What a style has or lacks. -/
inductive Attribute
  | bold
  | italic
  | underline
  | reverse
deriving DecidableEq, Repr

def Attribute.name : Attribute → String
  | bold => "bold"
  | italic => "italic"
  | underline => "underline"
  | reverse => "reverse"

def has (style : Style) : Attribute → Bool
  | .bold => style.bold
  | .italic => style.italic
  | .underline => style.underline
  | .reverse => style.reverse

def add (style : Style) : Attribute → Style
  | .bold => { style with bold := true }
  | .italic => { style with italic := true }
  | .underline => { style with underline := true }
  | .reverse => { style with reverse := true }

/-- The words that are no colours. -/
def keywords : List String := ["bold", "italic", "underline", "reverse", "on"]

def IsKeyword (word : Text) : Prop := ∃ name ∈ keywords, word.Spells name

instance (word : Text) : Decidable (IsKeyword word) :=
  inferInstanceAs (Decidable (∃ name ∈ keywords, word.Spells name))

/-- Attributes, colours, and `on` in front of a colour, in any order. -/
inductive Described : List Text → Prop
  | nil : Described []
  | attr {word words} (a : Attribute) : word.Spells a.name → Described words →
      Described (word :: words)
  | fg {word words} (c : Color) : Color.ofName? word = some c → Described words →
      Described (word :: words)
  | bg {on name words} (c : Color) : on.Spells "on" → Color.ofName? name = some c →
      Described words → Described (on :: name :: words)

/-! ## Words and the words in front of them -/

/-- A word of a description, and the word in front of it. -/
structure Placed where
  before : Option Text
  word : Text

/-- The words that follow a word, each with the one in front of it. -/
def placedFrom (before : Option Text) : List Text → List Placed
  | [] => []
  | word :: words => ⟨before, word⟩ :: placedFrom (some word) words

def placed (words : List Text) : List Placed := placedFrom none words

namespace Placed

def BehindOn (p : Placed) : Prop := ∃ word ∈ p.before, word.Spells "on"

instance (p : Placed) : Decidable p.BehindOn :=
  inferInstanceAs (Decidable (∃ word ∈ p.before, word.Spells "on"))

/-- The word sets the attribute. -/
def Sets (p : Placed) (a : Attribute) : Prop := ¬ p.BehindOn ∧ p.word.Spells a.name

instance (p : Placed) (a : Attribute) : Decidable (p.Sets a) :=
  inferInstanceAs (Decidable (_ ∧ _))

def background? (p : Placed) : Option Color :=
  if p.BehindOn then Color.ofName? p.word else none

def foreground? (p : Placed) : Option Color :=
  if p.BehindOn then none else Color.ofName? p.word

/-- A colour is asked for, and the word names none. -/
def Offends (p : Placed) : Prop :=
  Color.ofName? p.word = none ∧ (p.BehindOn ∨ ¬ IsKeyword p.word)

instance (p : Placed) : Decidable p.Offends :=
  inferInstanceAs (Decidable (_ ∧ _))

end Placed

def backgrounds (words : List Text) : List Color := (placed words).filterMap Placed.background?

/-- The bare colours. -/
def foregrounds (words : List Text) : List Color := (placed words).filterMap Placed.foreground?

def EndsInOn (words : List Text) : Prop := ∃ word ∈ words.getLast?, word.Spells "on"

instance (words : List Text) : Decidable (EndsInOn words) :=
  inferInstanceAs (Decidable (∃ word ∈ words.getLast?, word.Spells "on"))

/-! ## Words that are no colours -/

variable {word name : Text} {words : List Text} {style : Style} {description : String} {a : Attribute}

theorem normalize_of_spells {name : String} (h : word.Spells name)
    (hname : '-' ∉ name.toList ∧ '_' ∉ name.toList) : Color.normalize word = name.toList := by
  have hkept : word.filter (fun c => c != '-' && c != '_') = word := by
    refine List.filter_eq_self.2 fun c hc => ?_
    have hlower : c.toLower ∈ name.toList := h ▸ List.mem_map_of_mem hc
    have hdash : c ≠ '-' := by
      rintro rfl
      exact hname.1 hlower
    have hunderscore : c ≠ '_' := by
      rintro rfl
      exact hname.2 hlower
    simp [hdash, hunderscore]
  rw [Color.normalize, hkept, h]

theorem ofName?_of_isKeyword (h : IsKeyword word) : Color.ofName? word = none := by
  obtain ⟨name, hname, hspells⟩ := h
  have hplain : ∀ name ∈ keywords, '-' ∉ name.toList ∧ '_' ∉ name.toList := by decide +kernel
  have hnone : ∀ name ∈ keywords, Color.ofNormalized? name.toList = none := by decide +kernel
  rw [Color.ofName?, normalize_of_spells hspells (hplain name hname), hnone name hname]

theorem not_isKeyword_of_ofName? {c : Color} (h : Color.ofName? word = some c) : ¬ IsKeyword word :=
  fun hword => by
    rw [ofName?_of_isKeyword hword] at h
    cases h

theorem isKeyword_of_attribute (h : word.Spells a.name) : IsKeyword word :=
  ⟨a.name, by cases a <;> decide, h⟩

theorem isKeyword_of_on (h : word.Spells "on") : IsKeyword word := ⟨"on", by decide, h⟩

theorem attribute_not_on (h : word.Spells a.name) : ¬ word.Spells "on" := by
  intro hon
  have heq : a.name.toList = "on".toList := h.symm.trans hon
  cases a <;> exact absurd heq (by decide)

theorem Attribute.name_injective {a b : Attribute} (h : a.name = b.name) : a = b := by
  revert h
  cases a <;> cases b <;> simp [name]

theorem spells_attribute_iff {b : Attribute} (h : word.Spells a.name) : word.Spells b.name ↔ b = a := by
  constructor
  · intro hb
    exact Attribute.name_injective (String.toList_inj.1 (hb.symm.trans h))
  · rintro rfl
    exact h

/-! ## One word of a description -/

theorem ofText_eq_color (h : ¬ IsKeyword word) : Word.ofText word = .color := by
  have hne : ∀ name ∈ keywords, word.map Char.toLower ≠ name.toList := fun name hname hspells =>
    h ⟨name, hname, hspells⟩
  simp only [Word.ofText]
  rw [if_neg (hne "bold" (by decide)), if_neg (hne "italic" (by decide)),
    if_neg (hne "underline" (by decide)), if_neg (hne "reverse" (by decide)),
    if_neg (hne "on" (by decide))]

theorem extend_attribute (h : word.Spells a.name) :
    extend description style (word :: words) = extend description (style.add a) words := by
  rw [Text.Spells] at h
  cases a <;> simp [extend, Word.ofText, h, Attribute.name, add]

theorem extend_on_nil (h : word.Spells "on") :
    extend description style [word] = .error (.unknownColor description) := by
  rw [Text.Spells] at h
  simp [extend, Word.ofText, h]

theorem extend_on_cons (h : word.Spells "on") :
    extend description style (word :: name :: words) =
      match Color.ofName? name with
      | some c => extend description { style with bg := c } words
      | none => .error (.unknownColor (String.ofList name)) := by
  rw [Text.Spells] at h
  cases hc : Color.ofName? name <;> simp [extend, Word.ofText, h, colorOf, hc]

theorem extend_color (h : ¬ IsKeyword word) :
    extend description style (word :: words) =
      match Color.ofName? word with
      | some c => extend description { style with fg := c } words
      | none => .error (.unknownColor (String.ofList word)) := by
  cases hc : Color.ofName? word <;> simp [extend, ofText_eq_color h, colorOf, hc]

theorem word_cases (word : Text) :
    (∃ a : Attribute, word.Spells a.name) ∨ word.Spells "on" ∨ ¬ IsKeyword word := by
  by_cases h : IsKeyword word
  · obtain ⟨name, hname, hspells⟩ := h
    simp only [keywords, List.mem_cons, List.not_mem_nil, or_false] at hname
    rcases hname with rfl | rfl | rfl | rfl | rfl
    · exact .inl ⟨.bold, hspells⟩
    · exact .inl ⟨.italic, hspells⟩
    · exact .inl ⟨.underline, hspells⟩
    · exact .inl ⟨.reverse, hspells⟩
    · exact .inr (.inl hspells)
  · exact .inr (.inr h)

/-- Words are read from left to right, and `on` takes the next one with it. -/
@[elab_as_elim]
theorem words_induction {P : List Text → Prop} (nil : P [])
    (attr : ∀ a : Attribute, ∀ word words, word.Spells a.name → P words → P (word :: words))
    (lone : ∀ on : Text, on.Spells "on" → P [on])
    (bg : ∀ on name words, Text.Spells on "on" → P words → P (on :: name :: words))
    (fg : ∀ word words, ¬ IsKeyword word → P words → P (word :: words)) (words : List Text) :
    P words := by
  match words with
  | [] => exact nil
  | word :: words =>
      have hrest := words_induction nil attr lone bg fg words
      rcases word_cases word with ⟨a, ha⟩ | hon | hcolor
      · exact attr a word words ha hrest
      · match words with
        | [] => exact lone word hon
        | name :: words => exact bg word name words hon (words_induction nil attr lone bg fg words)
      · exact fg word words hcolor hrest

/-! ## The whole description -/

/-- The style that a word adds to another one. -/
def Placed.addTo (p : Placed) (style : Style) : Style where
  fg := p.foreground?.getD style.fg
  bg := p.background?.getD style.bg
  bold := style.bold || p.Sets .bold
  italic := style.italic || p.Sets .italic
  underline := style.underline || p.Sets .underline
  reverse := style.reverse || p.Sets .reverse

/-- The style that words add to another one. -/
def asked (style : Style) (ps : List Placed) : Style where
  fg := (ps.filterMap Placed.foreground?).getLast?.getD style.fg
  bg := (ps.filterMap Placed.background?).getLast?.getD style.bg
  bold := style.bold || ps.any fun p => p.Sets .bold
  italic := style.italic || ps.any fun p => p.Sets .italic
  underline := style.underline || ps.any fun p => p.Sets .underline
  reverse := style.reverse || ps.any fun p => p.Sets .reverse

/-- What becomes of a description whose words follow a word: the first one that offends is reported. -/
def outcome (description : String) (style : Style) (before : Option Text) (words : List Text) :
    Except Fault Style :=
  match (placedFrom before words).find? fun p => p.Offends with
  | some p => .error (.unknownColor (String.ofList p.word))
  | none =>
    if EndsInOn words then .error (.unknownColor description)
    else .ok (asked style (placedFrom before words))

section

variable {before : Option Text} {c : Color} {p : Placed} {ps : List Placed}

theorem has_asked : (asked style ps).has a = (style.has a || ps.any fun p => p.Sets a) := by
  cases a <;> rfl

theorem getLast?_filterMap_cons {f : Placed → Option Color} {d : Color} :
    ((p :: ps).filterMap f).getLast?.getD d = (ps.filterMap f).getLast?.getD ((f p).getD d) := by
  cases hp : f p with
  | none => rw [List.filterMap_cons_none hp, Option.getD_none]
  | some c =>
      rw [List.filterMap_cons_some hp, List.getLast?_cons, Option.getD_some, Option.getD_some]

theorem asked_cons : asked style (p :: ps) = asked (p.addTo style) ps := by
  simp only [asked, getLast?_filterMap_cons, List.any_cons, Placed.addTo, Bool.or_assoc]

theorem addTo_attribute (hp : ¬ p.BehindOn) (h : p.word.Spells a.name) : p.addTo style = style.add a := by
  have hnone : Color.ofName? p.word = none := ofName?_of_isKeyword (isKeyword_of_attribute h)
  have hsets : ∀ b, p.Sets b ↔ b = a := fun b => by
    rw [Placed.Sets, spells_attribute_iff h, and_iff_right hp]
  cases a <;>
    simp [Placed.addTo, Placed.foreground?, Placed.background?, hp, hnone, hsets, add]

theorem addTo_on (hp : ¬ p.BehindOn) (h : p.word.Spells "on") : p.addTo style = style := by
  have hnone : Color.ofName? p.word = none := ofName?_of_isKeyword (isKeyword_of_on h)
  have hsets : ∀ b, ¬ p.Sets b := fun b hb => attribute_not_on hb.2 h
  simp [Placed.addTo, Placed.foreground?, Placed.background?, hp, hnone, hsets]

theorem addTo_background (hp : p.BehindOn) (h : Color.ofName? p.word = some c) :
    p.addTo style = { style with bg := c } := by
  have hsets : ∀ b, ¬ p.Sets b := fun b hb => hb.1 hp
  simp [Placed.addTo, Placed.foreground?, Placed.background?, hp, h, hsets]

theorem addTo_foreground (hp : ¬ p.BehindOn) (h : Color.ofName? p.word = some c) :
    p.addTo style = { style with fg := c } := by
  have hsets : ∀ b, ¬ p.Sets b := fun b hb =>
    not_isKeyword_of_ofName? h (isKeyword_of_attribute hb.2)
  simp [Placed.addTo, Placed.foreground?, Placed.background?, hp, h, hsets]

theorem not_offends_of_isKeyword (hp : ¬ p.BehindOn) (h : IsKeyword p.word) : ¬ p.Offends := fun hp' =>
  hp'.2.elim hp fun hnot => hnot h

theorem not_offends_of_color (h : Color.ofName? p.word = some c) : ¬ p.Offends := by
  rintro ⟨hnone, -⟩
  rw [h] at hnone
  cases hnone

theorem endsInOn_cons (h : ¬ word.Spells "on") : EndsInOn (word :: words) ↔ EndsInOn words := by
  cases words with
  | nil => simp [EndsInOn, h]
  | cons name words => simp [EndsInOn]

theorem outcome_nil : outcome description style before [] = .ok style := by
  simp [outcome, placedFrom, EndsInOn, asked]

theorem outcome_cons_of_offends (h : Placed.Offends ⟨before, word⟩) :
    outcome description style before (word :: words) =
      .error (.unknownColor (String.ofList word)) := by
  simp [outcome, placedFrom, h]

theorem outcome_cons (hok : ¬ Placed.Offends ⟨before, word⟩)
    (hends : EndsInOn (word :: words) ↔ EndsInOn words) :
    outcome description style before (word :: words) =
      outcome description (Placed.addTo ⟨before, word⟩ style) (some word) words := by
  simp [outcome, placedFrom, hok, hends, asked_cons]

theorem outcome_on_nil (hbefore : ¬ ∃ word ∈ before, word.Spells "on") (h : word.Spells "on") :
    outcome description style before [word] = .error (.unknownColor description) := by
  have hok : ¬ Placed.Offends ⟨before, word⟩ :=
    not_offends_of_isKeyword hbefore (isKeyword_of_on h)
  simp [outcome, placedFrom, hok, EndsInOn, h]

/-- Reading the words from left to right comes to what their places say. -/
theorem extend_eq_outcome {style : Style} {before : Option Text} (words : List Text)
    (hbefore : ¬ ∃ word ∈ before, word.Spells "on") :
    extend description style words = outcome description style before words := by
  induction words using words_induction generalizing style before with
  | nil => exact outcome_nil.symm
  | attr a word words ha ih =>
      have hnot := attribute_not_on ha
      have hok : ¬ Placed.Offends ⟨before, word⟩ :=
        not_offends_of_isKeyword hbefore (isKeyword_of_attribute ha)
      rw [extend_attribute ha, outcome_cons hok (endsInOn_cons hnot),
        addTo_attribute (p := ⟨before, word⟩) hbefore ha]
      exact ih (by simpa using hnot)
  | lone on hon => rw [extend_on_nil hon, outcome_on_nil hbefore hon]
  | bg on name words hon ih =>
      have hok : ¬ Placed.Offends ⟨before, on⟩ :=
        not_offends_of_isKeyword hbefore (isKeyword_of_on hon)
      have hbehind : Placed.BehindOn ⟨some on, name⟩ := ⟨on, rfl, hon⟩
      rw [extend_on_cons hon, outcome_cons hok (by simp [EndsInOn]),
        addTo_on (p := ⟨before, on⟩) hbefore hon]
      cases hname : Color.ofName? name with
      | none => exact (outcome_cons_of_offends ⟨hname, .inl hbehind⟩).symm
      | some c =>
          have hnot : ¬ name.Spells "on" := fun h => not_isKeyword_of_ofName? hname (isKeyword_of_on h)
          rw [outcome_cons (not_offends_of_color hname) (endsInOn_cons hnot),
            addTo_background hbehind hname]
          exact ih (by simpa using hnot)
  | fg word words hcolor ih =>
      rw [extend_color hcolor]
      cases hword : Color.ofName? word with
      | none => exact (outcome_cons_of_offends ⟨hword, .inr hcolor⟩).symm
      | some c =>
          have hnot : ¬ word.Spells "on" := fun h => hcolor (isKeyword_of_on h)
          rw [outcome_cons (not_offends_of_color hword) (endsInOn_cons hnot),
            addTo_foreground (p := ⟨before, word⟩) hbefore hword]
          exact ih (by simpa using hnot)

end

/-! ## What a description says -/

/-- An attribute is set where its word stands, unless `on` is in front, and of the colours the last one
of either kind counts. -/
structure Follows (style : Style) (words : List Text) : Prop where
  attributes : ∀ a, style.has a = true ↔ ∃ p ∈ placed words, p.Sets a
  bg : style.bg = (backgrounds words).getLast?.getD .default
  fg : style.fg = (foregrounds words).getLast?.getD .default

/-- The first word that offends is reported. If none does, the last word is an `on` that lacks its colour,
and the whole description is reported. -/
inductive Reported (description : String) (words : List Text) : Fault → Prop
  | word {before p after} : placed words = before ++ p :: after → (∀ q ∈ before, ¬ q.Offends) →
      p.Offends → Reported description words (.unknownColor (String.ofList p.word))
  | description : (∀ p ∈ placed words, ¬ p.Offends) → EndsInOn words →
      Reported description words (.unknownColor description)

theorem follows_asked (words : List Text) : (asked {} (placed words)).Follows words where
  attributes a := by
    rw [has_asked]
    cases a <;> simp [has]
  bg := rfl
  fg := rfl

theorem eq_of_follows {other : Style} (h : style.Follows words) (h' : other.Follows words) :
    style = other := by
  have hhas : ∀ a, style.has a = other.has a := fun a =>
    Bool.eq_iff_iff.2 ((h.attributes a).trans (h'.attributes a).symm)
  obtain ⟨fg, bg, bold, italic, underline, reverse⟩ := style
  obtain rfl : fg = other.fg := h.fg.trans h'.fg.symm
  obtain rfl : bg = other.bg := h.bg.trans h'.bg.symm
  obtain rfl : bold = other.bold := hhas .bold
  obtain rfl : italic = other.italic := hhas .italic
  obtain rfl : underline = other.underline := hhas .underline
  obtain rfl : reverse = other.reverse := hhas .reverse
  rfl

theorem parse_eq_outcome (description : String) :
    parse description = outcome description {} none (Text.words description.toList) :=
  extend_eq_outcome _ (by simp)

theorem outcome_cases (description : String) (words : List Text) :
    outcome description {} none words = .ok (asked {} (placed words)) ∨
      ∃ fault, outcome description {} none words = .error fault ∧ Reported description words fault := by
  cases hfind : (placed words).find? fun p => p.Offends with
  | some p =>
      obtain ⟨hp, before, after, hplaced, hbefore⟩ := List.find?_eq_some_iff_append.1 hfind
      refine .inr ⟨_, ?_, .word hplaced (fun q hq => by simpa using hbefore q hq) (by simpa using hp)⟩
      rw [placed] at hfind
      rw [outcome, hfind]
  | none =>
      have hall : ∀ p ∈ placed words, ¬ p.Offends := by simpa using hfind
      rw [placed] at hfind
      by_cases hend : EndsInOn words
      · exact .inr ⟨_, by rw [outcome, hfind, if_pos hend], .description hall hend⟩
      · exact .inl (by rw [outcome, hfind, if_neg hend, placed])

theorem outcome_of_reported {fault : Fault} (h : Reported description words fault) :
    outcome description {} none words = .error fault := by
  cases h with
  | word hplaced hbefore hp =>
      have hfind := List.find?_eq_some_iff_append (p := fun p : Placed => decide p.Offends).2
        ⟨by simpa using hp, _, _, hplaced, fun q hq => by simpa using hbefore q hq⟩
      rw [placed] at hfind
      rw [outcome, hfind]
  | description hall hend =>
      have hfind : (placed words).find? (fun p => p.Offends) = none := by simpa using hall
      rw [placed] at hfind
      rw [outcome, hfind, if_pos hend]

theorem described_of_extend {style result : Style} (words : List Text)
    (h : extend description style words = .ok result) : Described words := by
  induction words using words_induction generalizing style with
  | nil => exact .nil
  | attr a word words ha ih =>
      rw [extend_attribute ha] at h
      exact .attr a ha (ih h)
  | lone on hon =>
      rw [extend_on_nil hon] at h
      cases h
  | bg on name words hon ih =>
      rw [extend_on_cons hon] at h
      cases hname : Color.ofName? name with
      | none =>
          rw [hname] at h
          cases h
      | some c =>
          rw [hname] at h
          exact .bg c hon hname (ih h)
  | fg word words hcolor ih =>
      rw [extend_color hcolor] at h
      cases hword : Color.ofName? word with
      | none =>
          rw [hword] at h
          cases h
      | some c =>
          rw [hword] at h
          exact .fg c hword (ih h)

theorem Described.exists_extend (h : Described words) :
    ∃ result, extend description style words = .ok result := by
  induction h generalizing style with
  | nil => exact ⟨style, rfl⟩
  | attr a ha _ ih =>
      rw [extend_attribute ha]
      exact ih
  | fg c hword _ ih =>
      rw [extend_color (not_isKeyword_of_ofName? hword), hword]
      exact ih
  | bg c hon hname _ ih =>
      rw [extend_on_cons hon, hname]
      exact ih

/-- A description of attributes, colours and backgrounds is understood, and any other one is not. What it
says goes by the places of its words; of two bare colours, it is the last one that counts. -/
theorem parse_by_place (description : String) :
    ((∃ style, parse description = .ok style) ↔ Described (Text.words description.toList)) ∧
    (∀ style, parse description = .ok style ↔
      Described (Text.words description.toList) ∧ style.Follows (Text.words description.toList)) ∧
    ∀ fault, parse description = .error fault ↔
      Reported description (Text.words description.toList) fault := by
  have hsucceeds : (∃ style, parse description = .ok style) ↔
      Described (Text.words description.toList) :=
    ⟨fun ⟨_, h⟩ => described_of_extend _ h, Described.exists_extend⟩
  have hfollows : ∀ style, parse description = .ok style →
      style.Follows (Text.words description.toList) := by
    intro style h
    rw [parse_eq_outcome] at h
    rcases outcome_cases description (Text.words description.toList) with hok | ⟨fault, herror, -⟩
    · obtain rfl := Except.ok.inj (h.symm.trans hok)
      exact follows_asked _
    · rw [herror] at h
      cases h
  refine ⟨hsucceeds, fun style => ⟨fun h => ⟨hsucceeds.1 ⟨style, h⟩, hfollows style h⟩, ?_⟩,
    fun fault => ⟨fun h => ?_, fun h => ?_⟩⟩
  · rintro ⟨hdescribed, hstyle⟩
    obtain ⟨other, hother⟩ := hsucceeds.2 hdescribed
    rw [eq_of_follows hstyle (hfollows other hother)]
    exact hother
  · rw [parse_eq_outcome] at h
    rcases outcome_cases description (Text.words description.toList) with
      hok | ⟨fault', herror, hreported⟩
    · rw [hok] at h
      cases h
    · obtain rfl := Except.error.inj (h.symm.trans herror)
      exact hreported
  · rw [parse_eq_outcome]
    exact outcome_of_reported h

example : parse "White on bright-red BOLD" =
    .ok { fg := .white, bg := .brightRed, bold := true } := rfl

/-- The first bare colour is lost to a later one. -/
theorem first_foreground_lost : ∃ style, parse "red blue" = .ok style ∧
    foregrounds (Text.words "red blue".toList) = [.red, .blue] ∧
    style.fg ≠ (foregrounds (Text.words "red blue".toList)).head?.getD .default :=
  ⟨{ fg := .blue }, rfl, by decide +kernel, by decide +kernel⟩

end Style

end Highlighter
