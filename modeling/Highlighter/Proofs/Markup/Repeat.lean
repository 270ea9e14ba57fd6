import Highlighter.Proofs.Markup.Write

/-!
Writing the same categories twice. A write leaves nothing to fill in its range, and later writes keep
it so; the second time only replacing writes count, and of these the last one on a byte wins again.
-/
namespace Highlighter

theorem Policy.fill_snd_iff (policy : Policy) (category : Category) (slots : List Slot) :
    (policy.fill category slots).2 = true ↔ (policy.fill category slots).1 ≠ slots := by
  have hsame : ∀ f : Slot → Slot, slots.map f = slots ↔ ∀ slot ∈ slots, f slot = slot := by
    intro f
    simpa using List.map_inj_left (l := slots) (f := f) (g := id)
  cases policy with
  | skip =>
      by_cases h : slots.any Option.isSome
      · simp [fill, h]
      · cases slots with
        | nil => simp [fill]
        | cons slot slots =>
            cases slot with
            | none => simp [fill, show (slots.any Option.isSome) = false by simpa using h]
            | some c => simp at h
  | replace =>
      simp only [fill, ne_eq, hsame, Classical.not_forall, List.any_eq_true, bne_iff_ne]
      simp [@eq_comm _ (some category)]
  | keep =>
      simp only [fill, ne_eq, hsame, Classical.not_forall, List.any_eq_true, exists_prop]
      refine exists_congr fun slot => and_congr_right fun _ => ?_
      cases slot <;> simp

namespace Markup

variable {markup : Markup} {a b : Assignment} {as : List Assignment} {pos : Nat}

theorem getElem?_slots (h : pos < markup.length) :
    markup.slots[pos]? = some (markup.categoryAt? pos) := by
  simp [categoryAt?, List.getElem?_eq_getElem h]

theorem categoryAt?_write_of_covers (hcovers : a.Covers pos) (hpos : pos < markup.length) :
    (markup.write a).1.categoryAt? pos =
      a.policy.rewrite a.category (markup.isFree a) (markup.categoryAt? pos) := by
  rw [categoryAt?, getElem?_write, if_pos hcovers, getElem?_slots hpos, Option.map_some,
    Option.join_some]

theorem categoryAt?_of_length_le (h : markup.length ≤ pos) : markup.categoryAt? pos = none := by
  simp [categoryAt?, List.getElem?_eq_none h]

theorem ext_categoryAt? {other : Markup} (hlength : markup.length = other.length)
    (h : ∀ pos < markup.length, markup.categoryAt? pos = other.categoryAt? pos) : markup = other := by
  have hslots : markup.slots = other.slots := by
    refine List.ext_getElem? fun pos => ?_
    by_cases hpos : pos < markup.length
    · rw [getElem?_slots hpos, getElem?_slots (hlength ▸ hpos), h pos hpos]
    · have hle : markup.length ≤ pos := Nat.le_of_not_lt hpos
      have hle' : other.length ≤ pos := hlength ▸ hle
      rw [List.getElem?_eq_none hle, List.getElem?_eq_none hle']
  cases markup
  cases other
  exact congrArg Markup.mk hslots

theorem take_drop_drop (slots : List Slot) {start stop : Nat} (h : start ≤ stop) :
    slots.take start ++ (slots.take stop).drop start ++ slots.drop stop = slots := by
  have htake : slots.take start = (slots.take stop).take start := by
    rw [List.take_take, Nat.min_eq_left h]
  rw [htake, List.take_append_drop, List.take_append_drop]

theorem write_snd_iff : (markup.write a).2 = true ↔ (markup.write a).1 ≠ markup := by
  unfold write assign
  split
  · rename_i hlt
    have hparts := take_drop_drop markup.slots (Nat.le_of_lt hlt)
    simp only [Policy.fill_snd_iff]
    refine not_congr ⟨fun heq => ?_, fun heq => ?_⟩
    · rw [heq, hparts]
    · have hslots := (congrArg Markup.slots heq).trans hparts.symm
      exact List.append_cancel_left (List.append_cancel_right hslots)
  · simp

theorem write_snd_eq_false_iff : (markup.write a).2 = false ↔ (markup.write a).1 = markup := by
  rw [← Bool.not_eq_true, write_snd_iff, ne_eq, Decidable.not_not]

theorem exists_categorized_of_isFree (h : markup.isFree a = false) :
    ∃ pos, a.Covers pos ∧ (markup.categoryAt? pos).isSome = true := by
  simp only [isFree, Bool.not_eq_eq_eq_not, Bool.not_false, List.any_eq_true] at h
  obtain ⟨slot, hmem, hslot⟩ := h
  obtain ⟨i, hi⟩ := List.mem_iff_getElem?.1 hmem
  rw [List.getElem?_drop, List.getElem?_take] at hi
  split at hi
  · rename_i hlt
    exact ⟨a.start + i, ⟨Nat.le_add_right .., hlt⟩, by simpa [categoryAt?, hi] using hslot⟩
  · cases hi

/-- The bytes with a category become more and more. -/
theorem isSome_write (h : (markup.categoryAt? pos).isSome = true) :
    ((markup.write a).1.categoryAt? pos).isSome = true := by
  obtain ⟨c, hc⟩ := Option.isSome_iff_exists.1 h
  by_cases hr : a.Replaces pos
  · rw [categoryAt?_write_of_replaces (lt_length_of_categoryAt? hc) hr]
    rfl
  · rw [categoryAt?_write_of_some hc hr]
    rfl

/-- A write has nothing to fill: its range holds a category if it is a skipping one, and nothing but
categories otherwise. -/
def Filled (markup : Markup) (a : Assignment) : Prop :=
  ∀ pos < markup.length, a.Covers pos →
    if a.policy = .skip then ∃ other, a.Covers other ∧ (markup.categoryAt? other).isSome = true
    else (markup.categoryAt? pos).isSome = true

theorem filled_write (markup : Markup) (a : Assignment) : (markup.write a).1.Filled a := by
  intro pos hpos hcovers
  rw [length_write] at hpos
  have hcategory := categoryAt?_write_of_covers hcovers hpos
  cases hp : a.policy with
  | skip =>
      rw [if_pos rfl]
      cases hfree : markup.isFree a with
      | true => exact ⟨pos, hcovers, by rw [hcategory, hp, hfree]; rfl⟩
      | false =>
          obtain ⟨other, hother, hsome⟩ := exists_categorized_of_isFree hfree
          exact ⟨other, hother, isSome_write hsome⟩
  | replace =>
      rw [if_neg (by decide), hcategory, hp]
      rfl
  | keep =>
      rw [if_neg (by decide), hcategory, hp]
      rfl

theorem Filled.write (h : markup.Filled a) (b : Assignment) : (markup.write b).1.Filled a := by
  intro pos hpos hcovers
  have hfilled := h pos (by simpa using hpos) hcovers
  split
  · rename_i hskip
    rw [if_pos hskip] at hfilled
    obtain ⟨other, hother, hsome⟩ := hfilled
    exact ⟨other, hother, isSome_write hsome⟩
  · rename_i hskip
    rw [if_neg hskip] at hfilled
    exact isSome_write hfilled

theorem Filled.writeAll (h : markup.Filled a) (as : List Assignment) :
    (markup.writeAll as).1.Filled a := by
  induction as generalizing markup with
  | nil => exact h
  | cons b as ih => exact ih (h.write b)

theorem filled_writeAll (markup : Markup) (h : a ∈ as) : (markup.writeAll as).1.Filled a := by
  induction as generalizing markup with
  | nil => cases h
  | cons b as ih =>
      rcases List.mem_cons.1 h with rfl | h
      · exact (filled_write markup a).writeAll as
      · exact ih (markup.write b).1 h

/-- With nothing to fill, a write changes only bytes that it replaces. -/
theorem categoryAt?_write_of_filled (h : markup.Filled a) (hr : ¬ a.Replaces pos) :
    (markup.write a).1.categoryAt? pos = markup.categoryAt? pos := by
  by_cases hcovers : a.Covers pos
  · by_cases hpos : pos < markup.length
    · have hfilled := h pos hpos hcovers
      cases hp : a.policy with
      | skip =>
          rw [hp, if_pos rfl] at hfilled
          obtain ⟨other, hother, hsome⟩ := hfilled
          obtain ⟨c, hc⟩ := Option.isSome_iff_exists.1 hsome
          rw [categoryAt?_write_of_covers hcovers hpos, isFree_eq_false hc hother, hp]
          rfl
      | replace => exact absurd ⟨hp, hcovers⟩ hr
      | keep =>
          rw [hp, if_neg (by decide)] at hfilled
          obtain ⟨c, hc⟩ := Option.isSome_iff_exists.1 hfilled
          rw [hc, categoryAt?_write_of_some hc hr]
    · rw [categoryAt?_of_length_le (by simpa using hpos),
        categoryAt?_of_length_le (Nat.le_of_not_lt hpos)]
  · exact categoryAt?_write_of_not_covers hcovers

theorem categoryAt?_writeAll_of_filled (h : ∀ a ∈ as, markup.Filled a)
    (hr : ∀ a ∈ as, ¬ a.Replaces pos) :
    (markup.writeAll as).1.categoryAt? pos = markup.categoryAt? pos := by
  induction as generalizing markup with
  | nil => rfl
  | cons a as ih =>
      rw [List.forall_mem_cons] at h hr
      rw [writeAll_cons, ih (fun b hb => (h.2 b hb).write a) hr.2,
        categoryAt?_write_of_filled h.1 hr.1]

/-- The second time, writes leave everything as it is. -/
theorem writeAll_writeAll (markup : Markup) (as : List Assignment) :
    ((markup.writeAll as).1.writeAll as).1 = (markup.writeAll as).1 := by
  refine ext_categoryAt? (by simp) fun pos hpos => ?_
  simp only [length_writeAll] at hpos
  by_cases hr : ∃ a ∈ as, a.Replaces pos
  · obtain ⟨before, a, after, rfl, ha, hafter⟩ := exists_last_replaces hr
    rw [categoryAt?_writeAll_of_last (by simpa using hpos) ha hafter,
      categoryAt?_writeAll_of_last hpos ha hafter]
  · exact categoryAt?_writeAll_of_filled (fun a ha => filled_writeAll markup ha)
      fun a ha hra => hr ⟨a, ha, hra⟩

theorem write_eq_self (h : markup.Filled a)
    (hr : ∀ pos, a.Replaces pos → pos < markup.length → markup.categoryAt? pos = some a.category) :
    markup.write a = (markup, false) := by
  have hsame : (markup.write a).1 = markup := by
    refine ext_categoryAt? (length_write ..) fun pos hpos => ?_
    rw [length_write] at hpos
    by_cases hra : a.Replaces pos
    · rw [categoryAt?_write_of_replaces hpos hra, hr pos hra hpos]
    · exact categoryAt?_write_of_filled h hra
  exact Prod.ext hsame (write_snd_eq_false_iff.2 hsame)

theorem writeAll_eq_self (h : ∀ a ∈ as, markup.write a = (markup, false)) :
    markup.writeAll as = (markup, 0) := by
  induction as with
  | nil => rfl
  | cons a as ih =>
      rw [List.forall_mem_cons] at h
      rw [writeAll_cons, h.1, ih h.2]
      rfl

/-- No byte is written over with two categories. -/
def Agree (as : List Assignment) : Prop :=
  ∀ a ∈ as, ∀ b ∈ as, ∀ pos, a.Replaces pos → b.Replaces pos → a.category = b.category

/-- Writes that agree report no change the second time. -/
theorem writeAll_writeAll_of_agree (h : Agree as) :
    (markup.writeAll as).1.writeAll as = ((markup.writeAll as).1, 0) := by
  refine writeAll_eq_self fun a ha => write_eq_self (filled_writeAll markup ha) fun pos hra hpos => ?_
  exact categoryAt?_writeAll_of_replaces (by simpa using hpos) ⟨a, ha, hra⟩
    fun b hb hrb => h b hb a ha pos hrb hra

end Markup

end Highlighter
