import Highlighter.Proofs.Construct.Extent
import Highlighter.Proofs.Markup.Write
import Highlighter.Script.Lexical

/-!
The constructs of a line, said without the search for them: at every byte from which the search goes
on, the earliest opener counts, and of openers at one byte that of the construct listed first.
-/
namespace Highlighter

namespace Construct

/-- The opening that counts from byte `pos` on. Nothing opens before it, and no construct that is
listed earlier opens where it does. -/
def Opens (constructs : List Construct) (text : Text) (pos : Nat) (opening : Opening) : Prop :=
  ∃ before after, constructs = before ++ opening.construct :: after ∧
    opening.construct.findOpener text pos = some (opening.start, opening.stop) ∧
    (∀ c ∈ before, ∀ start stop, c.findOpener text pos = some (start, stop) → opening.start < start) ∧
    ∀ c ∈ after, ∀ start stop, c.findOpener text pos = some (start, stop) → opening.start ≤ start

/-- Where the search goes on after a construct: at its end, or a byte further if it is empty. -/
def resume (start stop : Nat) : Nat :=
  if start < stop then stop else start + 1

/-- The constructs from byte `pos` on, and the state at the end of the line. -/
inductive FoundFrom (constructs : List Construct) (text : Text) :
    Nat → List Span → LineState → Prop
  | nothing {pos} (h : ∀ c ∈ constructs, c.findOpener text pos = none) :
      FoundFrom constructs text pos [] .normal
  | unclosed {pos opening} (ho : Opens constructs text pos opening)
      (hc : opening.construct.findCloser text opening.stop = none) :
      FoundFrom constructs text pos
        [⟨opening.start, text.byteLength, opening.construct.category⟩] ⟨opening.construct.id⟩
  | closed {pos opening stop spans last} (ho : Opens constructs text pos opening)
      (hc : opening.construct.findCloser text opening.stop = some stop)
      (hrest : FoundFrom constructs text (resume opening.start stop) spans last) :
      FoundFrom constructs text pos
        (⟨opening.start, stop, opening.construct.category⟩ :: spans) last

/-- The constructs of a line after a line that ended in a state, and the state at its end. -/
inductive Found (constructs : List Construct) (text : Text) (state : LineState) :
    List Span → LineState → Prop
  | fresh {spans last} (hs : continued? constructs state = none)
      (hrest : FoundFrom constructs text 0 spans last) : Found constructs text state spans last
  | unclosed {construct} (hs : continued? constructs state = some construct)
      (hc : construct.findCloser text 0 = none) :
      Found constructs text state [⟨0, text.byteLength, construct.category⟩] state
  | closed {construct stop spans last} (hs : continued? constructs state = some construct)
      (hc : construct.findCloser text 0 = some stop)
      (hrest : FoundFrom constructs text stop spans last) :
      Found constructs text state (⟨0, stop, construct.category⟩ :: spans) last

variable {constructs : List Construct} {text : Text} {pos : Nat} {state last : LineState}
  {spans : List Span} {opening : Opening}

/-! ## The first opening -/

theorem Opens.le (h : Opens constructs text pos opening) : ∀ c ∈ constructs, ∀ start stop,
    c.findOpener text pos = some (start, stop) → opening.start ≤ start := by
  obtain ⟨before, after, rfl, hfound, hbefore, hafter⟩ := h
  intro c hc start stop hopen
  rcases List.mem_append.1 hc with hc | hc
  · exact Nat.le_of_lt (hbefore c hc start stop hopen)
  · rcases List.mem_cons.1 hc with rfl | hc
    · obtain ⟨rfl, _⟩ : opening.start = start ∧ opening.stop = stop := by simpa [hfound] using hopen
      exact Nat.le_refl _
    · exact hafter c hc start stop hopen

theorem Opens.found (h : Opens constructs text pos opening) :
    opening.construct ∈ constructs ∧
      opening.construct.findOpener text pos = some (opening.start, opening.stop) := by
  obtain ⟨before, after, rfl, hfound, _⟩ := h
  exact ⟨by simp, hfound⟩

theorem Opens.unique {other : Opening} (h : Opens constructs text pos opening)
    (h' : Opens constructs text pos other) : opening = other := by
  -- Were they at two places of the list, each would have to open before the other.
  have hstart : opening.start = other.start :=
    Nat.le_antisymm (h.le _ h'.found.1 _ _ h'.found.2) (h'.le _ h.found.1 _ _ h.found.2)
  obtain ⟨before, after, hlist, hfound, hbefore, _⟩ := h
  obtain ⟨before', after', hlist', hfound', hbefore', _⟩ := h'
  have hconstruct : opening.construct = other.construct := by
    rcases List.append_eq_append_iff.1 (hlist.symm.trans hlist') with
      ⟨mid, rfl, hmid⟩ | ⟨mid, rfl, hmid⟩
    · cases mid with
      | nil => exact (List.cons.inj hmid).1
      | cons c mid =>
          obtain ⟨rfl, _⟩ := List.cons.inj hmid
          have := hbefore' _ (by simp) _ _ hfound
          omega
    · cases mid with
      | nil => exact (List.cons.inj hmid).1.symm
      | cons c mid =>
          obtain ⟨rfl, _⟩ := List.cons.inj hmid
          have := hbefore _ (by simp) _ _ hfound'
          omega
  obtain ⟨start, stop, construct⟩ := opening
  obtain ⟨start', stop', construct'⟩ := other
  simp only at hstart hconstruct hfound hfound'
  subst hstart hconstruct
  rw [hfound] at hfound'
  simpa using hfound'

theorem forall_findOpener_of_firstOpening (h : firstOpening text pos constructs = none) :
    ∀ c ∈ constructs, c.findOpener text pos = none := by
  induction constructs with
  | nil => simp
  | cons c constructs ih =>
      rw [firstOpening] at h
      split at h
      · rename_i hc
        exact List.forall_mem_cons.2 ⟨hc, ih h⟩
      · cases h
      · split at h <;> cases h

theorem opens_of_firstOpening (h : firstOpening text pos constructs = some opening) :
    Opens constructs text pos opening := by
  induction constructs generalizing opening with
  | nil => cases h
  | cons c constructs ih =>
      rw [firstOpening] at h
      split at h
      · rename_i hc
        obtain ⟨before, after, rfl, hfound, hbefore, hafter⟩ := ih h
        refine ⟨c :: before, after, rfl, hfound, ?_, hafter⟩
        exact List.forall_mem_cons.2 ⟨by simp [hc], hbefore⟩
      · rename_i start stop hc hnone
        obtain rfl := Option.some.inj h
        have hall := forall_findOpener_of_firstOpening hnone
        exact ⟨[], constructs, rfl, hc, by simp, fun d hd start stop hd' => by simp [hall d hd] at hd'⟩
      · rename_i start stop later hc hlater
        split at h
        · rename_i hlt
          obtain rfl := Option.some.inj h
          obtain ⟨before, after, rfl, hfound, hbefore, hafter⟩ := ih hlater
          refine ⟨c :: before, after, rfl, hfound, ?_, hafter⟩
          refine List.forall_mem_cons.2 ⟨fun start' stop' hc' => ?_, hbefore⟩
          obtain ⟨rfl, _⟩ : start = start' ∧ stop = stop' := by simpa [hc] using hc'
          exact hlt
        · rename_i hle
          obtain rfl := Option.some.inj h
          refine ⟨[], constructs, rfl, hc, by simp, fun d hd start' stop' hd' => ?_⟩
          have := (ih hlater).le d hd start' stop' hd'
          simp only
          omega

/-! ## The search finds the constructs, and nothing else does -/

theorem max_eq_resume {start stop : Nat} (h : start ≤ stop) :
    max stop (start + 1) = resume start stop := by
  unfold resume
  split <;> omega

theorem lt_resume {start stop : Nat} (h : start ≤ stop) :
    start < resume start stop ∧ stop ≤ resume start stop := by
  unfold resume
  split <;> omega

theorem Opens.le_closer {stop : Nat} (h : Opens constructs text pos opening)
    (hc : opening.construct.findCloser text opening.stop = some stop) :
    pos ≤ opening.start ∧ opening.start ≤ stop ∧ stop ≤ text.byteLength := by
  have hopener := findOpener_le h.found.2
  obtain ⟨hle, hboundary⟩ := findCloser_isBoundary hc
  have := hboundary.le_byteLength
  omega

theorem foundFrom_end (h : text.byteLength ≤ pos) : FoundFrom constructs text pos [] .normal :=
  .nothing fun c _ => by simp [findOpener, Nat.not_lt.2 h]

theorem foundFrom_regionsFrom {fuel : Nat} (h : text.byteLength ≤ pos + fuel) :
    FoundFrom constructs text pos (regionsFrom constructs text fuel pos).1
      (regionsFrom constructs text fuel pos).2 := by
  -- Each round takes the search at least one byte further, so the fuel lasts.
  induction fuel generalizing pos with
  | zero => exact foundFrom_end h
  | succ fuel ih =>
      rw [regionsFrom]
      split
      · cases hfirst : firstOpening text pos constructs with
        | none => exact .nothing (forall_findOpener_of_firstOpening hfirst)
        | some opening =>
            have ho := opens_of_firstOpening hfirst
            cases hc : opening.construct.findCloser text opening.stop with
            | none => simpa [hc] using FoundFrom.unclosed ho hc
            | some stop =>
                have hle := ho.le_closer hc
                simp only [hc]
                rw [max_eq_resume hle.2.1]
                refine .closed ho hc (ih ?_)
                have := lt_resume hle.2.1
                omega
      · exact foundFrom_end (by omega)

theorem found_regions (constructs : List Construct) (text : Text) (state : LineState) :
    Found constructs text state (regions constructs text state).1 (regions constructs text state).2 := by
  rw [regions]
  cases hs : continued? constructs state with
  | none => exact .fresh hs (foundFrom_regionsFrom (by omega))
  | some construct =>
      cases hc : construct.findCloser text 0 with
      | none => simpa [hc] using Found.unclosed hs hc
      | some stop => simpa [hc] using Found.closed hs hc (foundFrom_regionsFrom (by omega))

theorem FoundFrom.unique {spans' : List Span} {last' : LineState}
    (h : FoundFrom constructs text pos spans last) (h' : FoundFrom constructs text pos spans' last') :
    spans' = spans ∧ last' = last := by
  induction h generalizing spans' last' with
  | nothing hnone =>
      cases h' with
      | nothing => exact ⟨rfl, rfl⟩
      | unclosed ho _ => exact absurd ho.found.2 (by simp [hnone _ ho.found.1])
      | closed ho _ _ => exact absurd ho.found.2 (by simp [hnone _ ho.found.1])
  | unclosed ho hc =>
      cases h' with
      | nothing hnone => exact absurd ho.found.2 (by simp [hnone _ ho.found.1])
      | unclosed ho' _ =>
          obtain rfl := ho.unique ho'
          exact ⟨rfl, rfl⟩
      | closed ho' hc' _ =>
          obtain rfl := ho.unique ho'
          simp [hc] at hc'
  | closed ho hc _ ih =>
      cases h' with
      | nothing hnone => exact absurd ho.found.2 (by simp [hnone _ ho.found.1])
      | unclosed ho' hc' =>
          obtain rfl := ho.unique ho'
          simp [hc] at hc'
      | closed ho' hc' hrest' =>
          obtain rfl := ho.unique ho'
          obtain rfl := Option.some.inj (hc.symm.trans hc')
          obtain ⟨rfl, rfl⟩ := ih hrest'
          exact ⟨rfl, rfl⟩

theorem Found.unique {spans' : List Span} {last' : LineState} (h : Found constructs text state spans last)
    (h' : Found constructs text state spans' last') : spans' = spans ∧ last' = last := by
  cases h with
  | fresh hs hrest =>
      cases h' with
      | fresh _ hrest' => exact hrest.unique hrest'
      | unclosed hs' _ => simp [hs] at hs'
      | closed hs' _ _ => simp [hs] at hs'
  | unclosed hs hc =>
      cases h' with
      | fresh hs' _ => simp [hs] at hs'
      | unclosed hs' _ =>
          obtain rfl := Option.some.inj (hs.symm.trans hs')
          exact ⟨rfl, rfl⟩
      | closed hs' hc' _ =>
          obtain rfl := Option.some.inj (hs.symm.trans hs')
          simp [hc] at hc'
  | closed hs hc hrest =>
      cases h' with
      | fresh hs' _ => simp [hs] at hs'
      | unclosed hs' hc' =>
          obtain rfl := Option.some.inj (hs.symm.trans hs')
          simp [hc] at hc'
      | closed hs' hc' hrest' =>
          obtain rfl := Option.some.inj (hs.symm.trans hs')
          obtain rfl := Option.some.inj (hc.symm.trans hc')
          obtain ⟨rfl, rfl⟩ := hrest.unique hrest'
          exact ⟨rfl, rfl⟩

/-! ## Order -/

theorem FoundFrom.within (h : FoundFrom constructs text pos spans last) :
    ∀ span ∈ spans, pos ≤ span.start ∧ span.start ≤ span.stop ∧ span.stop ≤ text.byteLength := by
  induction h with
  | nothing => simp
  | unclosed ho hc =>
      have hpos := findOpener_le ho.found.2
      have hend := (findOpener_isBoundary ho.found.2).1.le_byteLength
      simp only [List.mem_singleton, forall_eq]
      omega
  | closed ho hc _ ih =>
      have hle := ho.le_closer hc
      have hresume := lt_resume hle.2.1
      refine List.forall_mem_cons.2 ⟨hle, fun span hspan => ?_⟩
      have := ih span hspan
      omega

theorem FoundFrom.inOrder (h : FoundFrom constructs text pos spans last) :
    spans.Pairwise fun a b => a.stop ≤ b.start := by
  induction h with
  | nothing => exact .nil
  | unclosed => exact List.pairwise_singleton ..
  | closed ho hc hrest ih =>
      have hresume := lt_resume (ho.le_closer hc).2.1
      refine List.pairwise_cons.2 ⟨fun span hspan => ?_, ih⟩
      have := hrest.within span hspan
      simp only
      omega

theorem Found.within (h : Found constructs text state spans last) :
    ∀ span ∈ spans, span.start ≤ span.stop ∧ span.stop ≤ text.byteLength := by
  cases h with
  | fresh _ hrest => exact fun span hspan => (hrest.within span hspan).2
  | unclosed => simp
  | closed _ hc hrest =>
      have hend := (findCloser_isBoundary hc).2.le_byteLength
      refine List.forall_mem_cons.2 ⟨⟨Nat.zero_le _, hend⟩, fun span hspan => ?_⟩
      exact (hrest.within span hspan).2

theorem Found.inOrder (h : Found constructs text state spans last) :
    spans.Pairwise fun a b => a.stop ≤ b.start := by
  cases h with
  | fresh _ hrest => exact hrest.inOrder
  | unclosed => exact List.pairwise_singleton ..
  | closed _ _ hrest =>
      exact List.pairwise_cons.2 ⟨fun span hspan => (hrest.within span hspan).1, hrest.inOrder⟩

theorem FoundFrom.isBoundary (h : FoundFrom constructs text pos spans last) :
    ∀ span ∈ spans, text.IsBoundary span.start ∧ text.IsBoundary span.stop := by
  induction h with
  | nothing => simp
  | unclosed ho _ =>
      rw [List.forall_mem_singleton]
      exact ⟨(findOpener_isBoundary ho.found.2).1, text.isBoundary_byteLength⟩
  | closed ho hc _ ih =>
      exact List.forall_mem_cons.2
        ⟨⟨(findOpener_isBoundary ho.found.2).1, (findCloser_isBoundary hc).2⟩, ih⟩

/-- Constructs begin and end between characters, also where the search went on inside of one. -/
theorem Found.isBoundary (h : Found constructs text state spans last) :
    ∀ span ∈ spans, text.IsBoundary span.start ∧ text.IsBoundary span.stop := by
  cases h with
  | fresh _ hrest => exact hrest.isBoundary
  | unclosed =>
      rw [List.forall_mem_singleton]
      exact ⟨text.isBoundary_zero, text.isBoundary_byteLength⟩
  | closed _ hc hrest =>
      exact List.forall_mem_cons.2
        ⟨⟨text.isBoundary_zero, (findCloser_isBoundary hc).2⟩, hrest.isBoundary⟩

/-! ## The state at the end -/

/-- A line ends in plain script or in the construct that holds its last bytes. -/
theorem FoundFrom.state_eq (h : FoundFrom constructs text pos spans last) :
    last = .normal ∨ ∃ c ∈ constructs, last = ⟨c.id⟩ ∧
      ∃ pos start stop, c.findOpener text pos = some (start, stop) ∧
        spans.getLast? = some ⟨start, text.byteLength, c.category⟩ := by
  induction h with
  | nothing => exact .inl rfl
  | unclosed ho _ => exact .inr ⟨_, ho.found.1, rfl, _, _, _, ho.found.2, rfl⟩
  | closed _ _ _ ih =>
      refine ih.imp_right fun ⟨c, hc, hlast, pos, start, stop, hopen, hspan⟩ =>
        ⟨c, hc, hlast, pos, start, stop, hopen, ?_⟩
      rw [List.getLast?_cons, hspan, Option.getD_some]

theorem continued?_eq_some {construct : Construct} (h : continued? constructs state = some construct) :
    construct ∈ constructs ∧ state = ⟨construct.id⟩ := by
  unfold continued? at h
  split at h
  · cases h
  · refine ⟨List.mem_of_find?_eq_some h, ?_⟩
    have hid := List.find?_some h
    simp only [beq_iff_eq] at hid
    rw [hid]

theorem Found.state_eq (h : Found constructs text state spans last) :
    last = .normal ∨ ∃ c ∈ constructs, last = ⟨c.id⟩ ∧
      ∃ start, spans.getLast? = some ⟨start, text.byteLength, c.category⟩ ∧
        (start = 0 ∨ ∃ pos stop, c.findOpener text pos = some (start, stop)) := by
  cases h with
  | fresh _ hrest =>
      refine hrest.state_eq.imp_right fun ⟨c, hc, hlast, pos, start, stop, hopen, hspan⟩ =>
        ⟨c, hc, hlast, start, hspan, .inr ⟨pos, stop, hopen⟩⟩
  | unclosed hs _ =>
      obtain ⟨hmem, hstate⟩ := continued?_eq_some hs
      exact .inr ⟨_, hmem, hstate, 0, rfl, .inl rfl⟩
  | closed _ _ hrest =>
      refine hrest.state_eq.imp_right fun ⟨c, hc, hlast, pos, start, stop, hopen, hspan⟩ =>
        ⟨c, hc, hlast, start, ?_, .inr ⟨pos, stop, hopen⟩⟩
      rw [List.getLast?_cons, hspan, Option.getD_some]

/-- If every opener takes a byte, a construct that is left open holds the last byte of the line. -/
theorem Found.last_of_open (h : Found constructs text state spans last)
    (hsolid : ∀ c ∈ constructs, ∀ pos start stop, c.findOpener text pos = some (start, stop) →
      start < stop)
    (hopen : last.isNormal = false) (htext : text ≠ []) :
    ∃ c ∈ constructs, last = ⟨c.id⟩ ∧ ∃ start < text.byteLength,
      spans.getLast? = some ⟨start, text.byteLength, c.category⟩ := by
  rcases h.state_eq with rfl | ⟨c, hc, hlast, start, hspan, hstart⟩
  · simp [LineState.normal, LineState.isNormal] at hopen
  · refine ⟨c, hc, hlast, start, ?_, hspan⟩
    rcases hstart with rfl | ⟨pos, stop, hfound⟩
    · obtain ⟨x, rest, rfl⟩ := List.exists_cons_of_ne_nil htext
      have hx := x.utf8Size_pos
      rw [Text.byteLength_cons]
      omega
    · have hlt := hsolid c hc pos start stop hfound
      have hend := (findOpener_isBoundary hfound).2.le_byteLength
      omega

end Construct

/-! ## The whole -/

/-- The constructs of a line are those that are found by always taking the earliest opener. They lie
one after the other, so each of them is marked throughout, whatever was marked before, and nothing
else changes. A line can only end in a construct of the table, and if openers are not empty, then
that construct holds the line's last byte. -/
theorem earliest_opener_wins (constructs : List Construct) (text : Text) (state : LineState) :
    ∃ spans last,
      (∀ spans' last', Construct.Found constructs text state spans' last' ↔
        spans' = spans ∧ last' = last) ∧
      spans.Pairwise (fun a b => a.stop ≤ b.start) ∧
      (∀ span ∈ spans, span.start ≤ span.stop ∧ span.stop ≤ text.byteLength) ∧
      (∀ markup : Markup, (markup.scan constructs text state).2 = last ∧
        (markup.scan constructs text state).1.length = markup.length ∧
        ∀ pos < markup.length,
          (∀ span ∈ spans, span.contains pos = true →
            (markup.scan constructs text state).1.categoryAt? pos = some span.category) ∧
          ((∀ span ∈ spans, span.contains pos = false) →
            (markup.scan constructs text state).1.categoryAt? pos = markup.categoryAt? pos)) ∧
      (last = .normal ∨ ∃ c ∈ constructs, last = ⟨c.id⟩) ∧
      ((∀ c ∈ constructs, ∀ pos start stop, c.findOpener text pos = some (start, stop) →
          start < stop) → last.isNormal = false → text ≠ [] →
        ∃ c ∈ constructs, last = ⟨c.id⟩ ∧
          (∃ start < text.byteLength,
            spans.getLast? = some ⟨start, text.byteLength, c.category⟩) ∧
          ∀ markup : Markup, text.byteLength ≤ markup.length →
            (markup.scan constructs text state).1.categoryAt? (text.byteLength - 1) =
              some c.category) := by
  have hfound := Construct.found_regions constructs text state
  refine ⟨_, _, fun spans' last' => ⟨hfound.unique, ?_⟩, hfound.inOrder, hfound.within,
    fun markup => ⟨rfl, Markup.length_paintAll .., fun pos hpos => ⟨fun span hspan hcontains => ?_,
      Markup.categoryAt?_paintAll_of_not_contains⟩⟩, ?_, fun hsolid hopen htext => ?_⟩
  · rintro ⟨rfl, rfl⟩
    exact hfound
  · exact Markup.categoryAt?_paintAll_of_contains hpos hfound.inOrder hspan hcontains
  · exact hfound.state_eq.imp_right fun ⟨c, hc, hlast, _⟩ => ⟨c, hc, hlast⟩
  · obtain ⟨c, hc, hlast, start, hlt, hspan⟩ := hfound.last_of_open hsolid hopen htext
    refine ⟨c, hc, hlast, ⟨start, hlt, hspan⟩, fun markup hlength => ?_⟩
    refine Markup.categoryAt?_paintAll_of_contains (by omega) hfound.inOrder
      (List.mem_of_getLast? hspan) (Span.contains_iff.2 ?_)
    simp only
    omega

/-- Of a string that holds a comment's opener and one that goes on behind an escaped line end, the
second one is left open and holds the last byte. -/
theorem earliest_opener_wins_escaped :
    Construct.Found Script.constructs "s=\"/*é\"+'a\\".toList .normal
      [⟨2, 8, .string⟩, ⟨9, 12, .string⟩] ⟨4⟩ ∧
    ((Markup.blank 12).scan Script.constructs "s=\"/*é\"+'a\\".toList .normal).1.categoryAt? 11 =
      some .string := by
  obtain ⟨spans, last, hfound, -, -, hscan, -, hend⟩ :=
    earliest_opener_wins Script.constructs "s=\"/*é\"+'a\\".toList .normal
  have hlast : last = ⟨4⟩ := (hscan (.blank 12)).1.symm.trans (by decide +kernel)
  have hspans : spans = [⟨2, 8, .string⟩, ⟨9, 12, .string⟩] := by
    have hregions := Construct.found_regions Script.constructs "s=\"/*é\"+'a\\".toList .normal
    exact ((hfound _ _).1 hregions).1.symm.trans (by decide +kernel)
  have hsolid : ∀ c ∈ Script.constructs, ∀ pos < 12,
      ∀ range ∈ c.findOpener "s=\"/*é\"+'a\\".toList pos, range.1 < range.2 := by
    decide +kernel
  refine ⟨(hfound _ _).2 ⟨hspans.symm, hlast.symm⟩, ?_⟩
  obtain ⟨c, hc, hid, -, hmarked⟩ := hend
    (fun c hc pos start stop h =>
      hsolid c hc pos (Construct.lt_of_findOpener h) (start, stop) h)
    (by rw [hlast]; rfl) (by decide)
  have hcategory : ∀ c ∈ Script.constructs, (⟨c.id⟩ : LineState) = ⟨4⟩ → c.category = .string := by
    decide
  rw [← hcategory c hc (hid.symm.trans hlast)]
  exact hmarked _ (Nat.le_refl _)

end Highlighter
