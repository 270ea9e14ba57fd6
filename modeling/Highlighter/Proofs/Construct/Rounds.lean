import Highlighter.Proofs.Construct.Escape
import Highlighter.Proofs.Construct.Found

/-!
The two loops of a scan, round by round and without a bound given to them. Each round takes its search
further on, so the rounds come to an end, and no search is started behind the end of its text.
-/
namespace Highlighter

/-- A search that is started: for a pattern, in a text, at a byte. -/
structure Search where
  pattern : Pattern
  text : Text
  pos : Nat

/-- What is found by the search, for which a byte inside a character stands for the character's end. -/
def Search.found? (search : Search) : Option Match :=
  (Cursor.seek search.text search.pos).bind search.pattern.search

namespace Construct

/-- Where the search for a closer goes on behind an escaped one: a byte further if that one is empty. -/
def behind (m : Match) : Nat :=
  if m.first.offset < m.last.offset then m.last.offset else m.last.offset + 1

/-- The loop that looks for a closer, from byte `pos` on: the searches that are started, and the end of
the closer. -/
inductive SeeksFrom (closer : Pattern) (escape : Char) (body : Text) :
    Nat → List Search → Option Nat → Prop
  | ended {pos} (hpos : body.byteLength < pos) : SeeksFrom closer escape body pos [] none
  | missed {pos} (hpos : pos ≤ body.byteLength) (hfound : Search.found? ⟨closer, body, pos⟩ = none) :
      SeeksFrom closer escape body pos [⟨closer, body, pos⟩] none
  | closed {pos m} (hpos : pos ≤ body.byteLength)
      (hfound : Search.found? ⟨closer, body, pos⟩ = some m)
      (heven : (m.first.before.takeWhile (· == escape)).length % 2 = 0) :
      SeeksFrom closer escape body pos [⟨closer, body, pos⟩] (some m.last.offset)
  | escaped {pos m searches result} (hpos : pos ≤ body.byteLength)
      (hfound : Search.found? ⟨closer, body, pos⟩ = some m)
      (hodd : (m.first.before.takeWhile (· == escape)).length % 2 ≠ 0)
      (hrest : SeeksFrom closer escape body (behind m) searches result) :
      SeeksFrom closer escape body pos (⟨closer, body, pos⟩ :: searches) result

/-- The search for the closer of a body that begins at byte `pos`. -/
inductive Closes (construct : Construct) (text : Text) (pos : Nat) : List Search → Option Nat → Prop
  | outside (hsplit : text.splitAt? pos = none) : Closes construct text pos [] none
  | once {pre body} (hsplit : text.splitAt? pos = some (pre, body)) (hescape : construct.escape = none) :
      Closes construct text pos [⟨construct.closer, body, 0⟩]
        ((Search.found? ⟨construct.closer, body, 0⟩).map fun m => pos + m.last.offset)
  | escaping {pre body escape searches result} (hsplit : text.splitAt? pos = some (pre, body))
      (hescape : construct.escape = some escape)
      (hseeks : SeeksFrom construct.closer escape body 0 searches result) :
      Closes construct text pos searches (result.map (pos + ·))

/-- A round of the loop over a line: where it searches, and the searches that are started in it. -/
structure Round where
  pos : Nat
  searches : List Search

/-- The searches for the openers of all constructs. -/
def openerSearches (constructs : List Construct) (text : Text) (pos : Nat) : List Search :=
  constructs.map fun construct => ⟨construct.opener, text, pos⟩

/-- The loop over a line, from byte `pos` on: its rounds, the constructs that it finds, and the state at
the end. -/
inductive ScansFrom (constructs : List Construct) (text : Text) :
    Nat → List Round → List Span → LineState → Prop
  | ended {pos} (hpos : text.byteLength ≤ pos) : ScansFrom constructs text pos [] [] .normal
  | nothing {pos} (hpos : pos < text.byteLength) (hopening : firstOpening text pos constructs = none) :
      ScansFrom constructs text pos [⟨pos, openerSearches constructs text pos⟩] [] .normal
  | unclosed {pos opening searches} (hpos : pos < text.byteLength)
      (hopening : firstOpening text pos constructs = some opening)
      (hcloses : Closes opening.construct text opening.stop searches none) :
      ScansFrom constructs text pos [⟨pos, openerSearches constructs text pos ++ searches⟩]
        [⟨opening.start, text.byteLength, opening.construct.category⟩] ⟨opening.construct.id⟩
  | closed {pos opening searches stop rounds spans last} (hpos : pos < text.byteLength)
      (hopening : firstOpening text pos constructs = some opening)
      (hcloses : Closes opening.construct text opening.stop searches (some stop))
      (hrest : ScansFrom constructs text (max stop (opening.start + 1)) rounds spans last) :
      ScansFrom constructs text pos
        (⟨pos, openerSearches constructs text pos ++ searches⟩ :: rounds)
        (⟨opening.start, stop, opening.construct.category⟩ :: spans) last

/-- The scan of a line: the searches for the closer of the construct that goes on from the line before,
and then the loop. -/
inductive Scans (constructs : List Construct) (text : Text) (state : LineState) :
    List Search → List Round → List Span → LineState → Prop
  | fresh {rounds spans last} (hstate : continued? constructs state = none)
      (hrest : ScansFrom constructs text 0 rounds spans last) :
      Scans constructs text state [] rounds spans last
  | unclosed {construct searches} (hstate : continued? constructs state = some construct)
      (hcloses : Closes construct text 0 searches none) :
      Scans constructs text state searches [] [⟨0, text.byteLength, construct.category⟩] state
  | closed {construct searches stop rounds spans last}
      (hstate : continued? constructs state = some construct)
      (hcloses : Closes construct text 0 searches (some stop))
      (hrest : ScansFrom constructs text stop rounds spans last) :
      Scans constructs text state searches rounds (⟨0, stop, construct.category⟩ :: spans) last

/-! ## Searches for a closer -/

variable {closer : Pattern} {escape : Char} {body text : Text} {pos : Nat}
  {searches searches' : List Search} {result result' : Option Nat} {m : Match}

theorem of_found (h : Search.found? ⟨closer, body, pos⟩ = some m) :
    pos ≤ m.first.offset ∧ m.first.offset ≤ m.last.offset ∧ m.last.offset ≤ body.byteLength := by
  obtain ⟨c, hseek, hsearch⟩ := Option.bind_eq_some_iff.1 h
  obtain ⟨-, hle⟩ : _ ∧ pos ≤ c.offset := Cursor.seek_reaches hseek
  obtain ⟨hreach, hmatch⟩ := Pattern.search_eq_some hsearch
  have hlast := Match.first_reaches_last hmatch
  have htext : m.last.text = body := by
    rw [hlast.text_eq, hreach.text_eq, Cursor.text_of_seek hseek]
  have hbound := m.last.offset_le_byteLength
  rw [htext] at hbound
  exact ⟨Nat.le_trans hle hreach.offset_le, hlast.offset_le, hbound⟩

/-- The search goes on at least a byte further, also behind a closer of no length. -/
theorem lt_behind (h : Search.found? ⟨closer, body, pos⟩ = some m) : pos < behind m := by
  have hle := of_found h
  unfold behind
  split <;> omega

theorem SeeksFrom.unique (h : SeeksFrom closer escape body pos searches result)
    (h' : SeeksFrom closer escape body pos searches' result') :
    searches' = searches ∧ result' = result := by
  induction h generalizing searches' result' with
  | ended hpos =>
      cases h' with
      | ended => exact ⟨rfl, rfl⟩
      | missed hpos' | closed hpos' | escaped hpos' => omega
  | missed hpos hfound =>
      cases h' with
      | ended hpos' => omega
      | missed => exact ⟨rfl, rfl⟩
      | closed _ hfound' | escaped _ hfound' =>
          rw [hfound] at hfound'
          cases hfound'
  | closed hpos hfound heven =>
      cases h' with
      | ended hpos' => omega
      | missed _ hfound' =>
          rw [hfound] at hfound'
          cases hfound'
      | closed _ hfound' _ =>
          obtain rfl := Option.some.inj (hfound.symm.trans hfound')
          exact ⟨rfl, rfl⟩
      | escaped _ hfound' hodd' =>
          obtain rfl := Option.some.inj (hfound.symm.trans hfound')
          exact absurd heven hodd'
  | escaped hpos hfound hodd _ ih =>
      cases h' with
      | ended hpos' => omega
      | missed _ hfound' =>
          rw [hfound] at hfound'
          cases hfound'
      | closed _ hfound' heven' =>
          obtain rfl := Option.some.inj (hfound.symm.trans hfound')
          exact absurd heven' hodd
      | escaped _ hfound' _ hrest' =>
          obtain rfl := Option.some.inj (hfound.symm.trans hfound')
          obtain ⟨rfl, rfl⟩ := ih hrest'
          exact ⟨rfl, rfl⟩

theorem closerFrom_round {fuel : Nat} :
    closerFrom closer escape body (fuel + 1) pos =
      match Search.found? ⟨closer, body, pos⟩ with
      | none => none
      | some m =>
        if (m.first.before.takeWhile (· == escape)).length % 2 = 0 then some m.last.offset
        else closerFrom closer escape body fuel (behind m) := rfl

/-- The loop comes to an end: the fuel is enough for it, since each round moves on. -/
theorem exists_seeksFrom (closer : Pattern) (escape : Char) {fuel : Nat}
    (hfuel : body.byteLength < pos + fuel) :
    ∃ searches, SeeksFrom closer escape body pos searches (closerFrom closer escape body fuel pos) := by
  induction fuel generalizing pos with
  | zero => exact ⟨_, .ended hfuel⟩
  | succ fuel ih =>
      by_cases hpos : pos ≤ body.byteLength
      · rw [closerFrom_round]
        cases hfound : Search.found? ⟨closer, body, pos⟩ with
        | none => exact ⟨_, .missed hpos hfound⟩
        | some m =>
            have hmoves := lt_behind hfound
            dsimp only
            split
            · rename_i heven
              exact ⟨_, .closed hpos hfound heven⟩
            · rename_i hodd
              obtain ⟨searches, hrest⟩ := @ih (behind m) (by omega)
              exact ⟨_, .escaped hpos hfound hodd hrest⟩
      · rw [closerFrom_eq_none (by omega)]
        exact ⟨_, .ended (by omega)⟩

/-- Searches in a text that are started from left to right, the last one at its end at most. -/
structure Forward (text : Text) (pos : Nat) (searches : List Search) : Prop where
  inText : ∀ s ∈ searches, s.text = text
  within : ∀ s ∈ searches, pos ≤ s.pos ∧ s.pos ≤ text.byteLength
  forward : searches.Pairwise fun s t => s.pos < t.pos
  few : searches.length ≤ text.byteLength + 1 - pos

theorem forward_nil (text : Text) (pos : Nat) : Forward text pos [] :=
  ⟨by simp, by simp, .nil, Nat.zero_le _⟩

theorem SeeksFrom.forward (h : SeeksFrom closer escape body pos searches result) :
    Forward body pos searches := by
  induction h with
  | ended => exact forward_nil ..
  | missed hpos | closed hpos =>
      exact ⟨by simp, by simpa using hpos, List.pairwise_singleton .., by simp; omega⟩
  | escaped hpos hfound _ _ ih =>
      have hmoves := lt_behind hfound
      refine ⟨List.forall_mem_cons.2 ⟨rfl, ih.inText⟩, List.forall_mem_cons.2 ⟨⟨Nat.le_refl _, hpos⟩, ?_⟩,
        List.pairwise_cons.2 ⟨?_, ih.forward⟩, ?_⟩
      · intro s hs
        have hwithin := ih.within s hs
        omega
      · intro s hs
        have hwithin := ih.within s hs
        exact Nat.lt_of_lt_of_le hmoves hwithin.1
      · have hfew := ih.few
        rw [List.length_cons]
        omega

variable {construct : Construct}

theorem Closes.unique (h : Closes construct text pos searches result)
    (h' : Closes construct text pos searches' result') : searches' = searches ∧ result' = result := by
  cases h with
  | outside hsplit =>
      cases h' with
      | outside => exact ⟨rfl, rfl⟩
      | once hsplit' | escaping hsplit' =>
          rw [hsplit] at hsplit'
          cases hsplit'
  | once hsplit hescape =>
      cases h' with
      | outside hsplit' =>
          rw [hsplit] at hsplit'
          cases hsplit'
      | once hsplit' =>
          obtain ⟨rfl, rfl⟩ := Prod.mk.inj (Option.some.inj (hsplit.symm.trans hsplit'))
          exact ⟨rfl, rfl⟩
      | escaping _ hescape' =>
          rw [hescape] at hescape'
          cases hescape'
  | escaping hsplit hescape hseeks =>
      cases h' with
      | outside hsplit' =>
          rw [hsplit] at hsplit'
          cases hsplit'
      | once _ hescape' =>
          rw [hescape] at hescape'
          cases hescape'
      | escaping hsplit' hescape' hseeks' =>
          obtain ⟨rfl, rfl⟩ := Prod.mk.inj (Option.some.inj (hsplit.symm.trans hsplit'))
          obtain rfl := Option.some.inj (hescape.symm.trans hescape')
          obtain ⟨rfl, rfl⟩ := hseeks.unique hseeks'
          exact ⟨rfl, rfl⟩

theorem exists_closes (construct : Construct) (text : Text) (pos : Nat) :
    ∃ searches, Closes construct text pos searches (construct.findCloser text pos) := by
  rw [findCloser]
  cases hsplit : text.splitAt? pos with
  | none => exact ⟨_, .outside hsplit⟩
  | some parts =>
      obtain ⟨pre, body⟩ := parts
      rw [Option.bind_some, closerIn]
      cases hescape : construct.escape with
      | none =>
          have hstart : Search.found? ⟨construct.closer, body, 0⟩ = construct.closer.search (.start body) :=
            congrArg (·.bind construct.closer.search) (Cursor.seek_byteLength [] body)
          refine ⟨[⟨construct.closer, body, 0⟩], ?_⟩
          have honce := Closes.once hsplit hescape
          rw [hstart] at honce
          simpa [Function.comp_def] using honce
      | some escape =>
          obtain ⟨searches, hseeks⟩ := exists_seeksFrom construct.closer escape
            (show body.byteLength < 0 + (body.byteLength + 1) by omega)
          exact ⟨searches, .escaping hsplit hescape hseeks⟩

theorem Closes.forward (h : Closes construct text pos searches result) :
    ∃ body, Forward body 0 searches := by
  cases h with
  | outside => exact ⟨[], forward_nil ..⟩
  | @once pre body =>
      exact ⟨body, by simp, by simp, List.pairwise_singleton .., by simp⟩
  | escaping _ _ hseeks => exact ⟨_, hseeks.forward⟩

/-! ## Rounds of the loop over a line -/

variable {constructs : List Construct} {rounds rounds' : List Round} {spans spans' : List Span}
  {state last last' : LineState} {opening : Opening}

/-- The loop goes on at least a byte further, also behind a construct of no length. -/
theorem lt_next {stop : Nat} (hopening : firstOpening text pos constructs = some opening)
    (hcloser : opening.construct.findCloser text opening.stop = some stop) :
    pos < max stop (opening.start + 1) := by
  have hle := (opens_of_firstOpening hopening).le_closer hcloser
  omega

theorem Closes.result_eq (h : Closes construct text pos searches result) :
    result = construct.findCloser text pos := by
  obtain ⟨searches', h'⟩ := exists_closes construct text pos
  exact (h'.unique h).2

theorem ScansFrom.unique (h : ScansFrom constructs text pos rounds spans last)
    (h' : ScansFrom constructs text pos rounds' spans' last') :
    rounds' = rounds ∧ spans' = spans ∧ last' = last := by
  induction h generalizing rounds' spans' last' with
  | ended hpos =>
      cases h' with
      | ended => exact ⟨rfl, rfl, rfl⟩
      | nothing hpos' | unclosed hpos' | closed hpos' => omega
  | nothing hpos hopening =>
      cases h' with
      | ended hpos' => omega
      | nothing => exact ⟨rfl, rfl, rfl⟩
      | unclosed _ hopening' | closed _ hopening' =>
          rw [hopening] at hopening'
          cases hopening'
  | unclosed hpos hopening hcloses =>
      cases h' with
      | ended hpos' => omega
      | nothing _ hopening' =>
          rw [hopening] at hopening'
          cases hopening'
      | unclosed _ hopening' hcloses' =>
          obtain rfl := Option.some.inj (hopening.symm.trans hopening')
          obtain ⟨rfl, -⟩ := hcloses.unique hcloses'
          exact ⟨rfl, rfl, rfl⟩
      | closed _ hopening' hcloses' =>
          obtain rfl := Option.some.inj (hopening.symm.trans hopening')
          cases (hcloses.unique hcloses').2
  | closed hpos hopening hcloses _ ih =>
      cases h' with
      | ended hpos' => omega
      | nothing _ hopening' =>
          rw [hopening] at hopening'
          cases hopening'
      | unclosed _ hopening' hcloses' =>
          obtain rfl := Option.some.inj (hopening.symm.trans hopening')
          cases (hcloses.unique hcloses').2
      | closed _ hopening' hcloses' hrest' =>
          obtain rfl := Option.some.inj (hopening.symm.trans hopening')
          obtain ⟨rfl, hstop⟩ := hcloses.unique hcloses'
          obtain rfl := Option.some.inj hstop
          obtain ⟨rfl, rfl, rfl⟩ := ih hrest'
          exact ⟨rfl, rfl, rfl⟩

theorem exists_scansFrom (constructs : List Construct) {fuel : Nat} (hfuel : text.byteLength ≤ pos + fuel) :
    ∃ rounds, ScansFrom constructs text pos rounds (regionsFrom constructs text fuel pos).1
      (regionsFrom constructs text fuel pos).2 := by
  induction fuel generalizing pos with
  | zero => exact ⟨_, .ended hfuel⟩
  | succ fuel ih =>
      rw [regionsFrom]
      split
      · rename_i hpos
        cases hopening : firstOpening text pos constructs with
        | none => exact ⟨_, .nothing hpos hopening⟩
        | some opening =>
            obtain ⟨searches, hcloses⟩ := exists_closes opening.construct text opening.stop
            cases hcloser : opening.construct.findCloser text opening.stop with
            | none =>
                rw [hcloser] at hcloses
                exact ⟨_, by simpa [hcloser] using ScansFrom.unclosed hpos hopening hcloses⟩
            | some stop =>
                rw [hcloser] at hcloses
                have hmoves := lt_next hopening hcloser
                obtain ⟨rounds, hrest⟩ := @ih (max stop (opening.start + 1)) (by omega)
                exact ⟨_, by simpa [hcloser] using ScansFrom.closed hpos hopening hcloses hrest⟩
      · exact ⟨_, .ended (by omega)⟩

/-- Rounds from left to right, each one short of the end of the line. -/
structure Advances (text : Text) (pos : Nat) (rounds : List Round) : Prop where
  within : ∀ r ∈ rounds, pos ≤ r.pos ∧ r.pos < text.byteLength
  forward : rounds.Pairwise fun r r' => r.pos < r'.pos
  few : rounds.length ≤ text.byteLength - pos
  inText : ∀ r ∈ rounds, ∀ s ∈ r.searches, s.pos ≤ s.text.byteLength

theorem Closes.within (h : Closes construct text pos searches result) :
    ∀ s ∈ searches, s.pos ≤ s.text.byteLength := by
  obtain ⟨body, hforward⟩ := h.forward
  intro s hs
  rw [hforward.inText s hs]
  exact (hforward.within s hs).2

theorem openerSearches_within (hpos : pos < text.byteLength) :
    ∀ s ∈ openerSearches constructs text pos, s.pos ≤ s.text.byteLength := by
  intro s hs
  obtain ⟨construct, -, rfl⟩ := List.mem_map.1 hs
  exact Nat.le_of_lt hpos

theorem ScansFrom.advances (h : ScansFrom constructs text pos rounds spans last) :
    Advances text pos rounds := by
  induction h with
  | ended => exact ⟨by simp, .nil, Nat.zero_le _, by simp⟩
  | nothing hpos =>
      exact ⟨by simpa using hpos, List.pairwise_singleton .., by simp; omega,
        by simpa using openerSearches_within hpos⟩
  | unclosed hpos _ hcloses =>
      refine ⟨by simpa using hpos, List.pairwise_singleton .., by simp; omega, ?_⟩
      rw [List.forall_mem_singleton]
      exact List.forall_mem_append.2 ⟨openerSearches_within hpos, hcloses.within⟩
  | closed hpos hopening hcloses _ ih =>
      have hmoves := lt_next hopening hcloses.result_eq.symm
      refine ⟨List.forall_mem_cons.2 ⟨⟨Nat.le_refl _, hpos⟩, ?_⟩,
        List.pairwise_cons.2 ⟨?_, ih.forward⟩, ?_, List.forall_mem_cons.2 ⟨?_, ih.inText⟩⟩
      · intro r hr
        have hwithin := ih.within r hr
        exact ⟨by omega, hwithin.2⟩
      · intro r hr
        exact Nat.lt_of_lt_of_le hmoves (ih.within r hr).1
      · have hfew := ih.few
        rw [List.length_cons]
        omega
      · exact List.forall_mem_append.2 ⟨openerSearches_within hpos, hcloses.within⟩

theorem Advances.mono {pos' : Nat} (h : Advances text pos rounds) (hle : pos' ≤ pos) :
    Advances text pos' rounds where
  within r hr := ⟨Nat.le_trans hle (h.within r hr).1, (h.within r hr).2⟩
  forward := h.forward
  few := by
    have hfew := h.few
    omega
  inText := h.inText

/-! ## The whole scan -/

theorem Scans.forward (h : Scans constructs text state searches rounds spans last) :
    (∃ body, Forward body 0 searches) ∧ Advances text 0 rounds := by
  cases h with
  | fresh _ hrest => exact ⟨⟨[], forward_nil ..⟩, hrest.advances⟩
  | unclosed _ hcloses => exact ⟨hcloses.forward, by simp, .nil, Nat.zero_le _, by simp⟩
  | closed _ hcloses hrest => exact ⟨hcloses.forward, hrest.advances.mono (Nat.zero_le _)⟩

theorem Scans.unique (h : Scans constructs text state searches rounds spans last)
    (h' : Scans constructs text state searches' rounds' spans' last') :
    searches' = searches ∧ rounds' = rounds ∧ spans' = spans ∧ last' = last := by
  cases h with
  | fresh hstate hrest =>
      cases h' with
      | fresh _ hrest' => exact ⟨rfl, hrest.unique hrest'⟩
      | unclosed hstate' | closed hstate' =>
          rw [hstate] at hstate'
          cases hstate'
  | unclosed hstate hcloses =>
      cases h' with
      | fresh hstate' =>
          rw [hstate] at hstate'
          cases hstate'
      | unclosed hstate' hcloses' =>
          obtain rfl := Option.some.inj (hstate.symm.trans hstate')
          exact ⟨(hcloses.unique hcloses').1, rfl, rfl, rfl⟩
      | closed hstate' hcloses' =>
          obtain rfl := Option.some.inj (hstate.symm.trans hstate')
          cases (hcloses.unique hcloses').2
  | closed hstate hcloses hrest =>
      cases h' with
      | fresh hstate' =>
          rw [hstate] at hstate'
          cases hstate'
      | unclosed hstate' hcloses' =>
          obtain rfl := Option.some.inj (hstate.symm.trans hstate')
          cases (hcloses.unique hcloses').2
      | closed hstate' hcloses' hrest' =>
          obtain rfl := Option.some.inj (hstate.symm.trans hstate')
          obtain ⟨rfl, hstop⟩ := hcloses.unique hcloses'
          obtain rfl := Option.some.inj hstop
          obtain ⟨rfl, rfl, rfl⟩ := hrest.unique hrest'
          exact ⟨rfl, rfl, rfl, rfl⟩

theorem exists_scans (constructs : List Construct) (text : Text) (state : LineState) :
    ∃ searches rounds, Scans constructs text state searches rounds
      (regions constructs text state).1 (regions constructs text state).2 := by
  rw [regions]
  cases hstate : continued? constructs state with
  | none =>
      obtain ⟨rounds, hrest⟩ := exists_scansFrom constructs
        (show text.byteLength ≤ 0 + text.byteLength by omega)
      exact ⟨_, rounds, .fresh hstate hrest⟩
  | some construct =>
      obtain ⟨searches, hcloses⟩ := exists_closes construct text 0
      cases hcloser : construct.findCloser text 0 with
      | none =>
          rw [hcloser] at hcloses
          exact ⟨searches, [], by simpa [hcloser] using Scans.unclosed hstate hcloses⟩
      | some stop =>
          rw [hcloser] at hcloses
          obtain ⟨rounds, hrest⟩ := exists_scansFrom constructs
            (show text.byteLength ≤ stop + text.byteLength by omega)
          exact ⟨searches, rounds, by simpa [hcloser] using Scans.closed hstate hcloses hrest⟩

/-- Both loops come to an end, whatever the patterns match. Openers lie ahead of the search and in the
text; each loop takes its search at least a byte further from one round to the next; the search for a
closer starts at most one search more than its text has bytes, and the loop over a line has at most as
many rounds as the line has bytes; and no search starts behind the end of its text. -/
theorem scanning_ends (constructs : List Construct) (text : Text) (state : LineState) :
    (∀ construct : Construct, ∀ pos start stop,
      construct.findOpener text pos = some (start, stop) →
        pos ≤ start ∧ start ≤ stop ∧ stop ≤ text.byteLength) ∧
    (∀ (closer : Pattern) (body : Text) (pos : Nat) (m : Match),
      Search.found? ⟨closer, body, pos⟩ = some m → pos < behind m) ∧
    (∀ pos opening stop, firstOpening text pos constructs = some opening →
      opening.construct.findCloser text opening.stop = some stop → pos < max stop (opening.start + 1)) ∧
    (∀ (construct : Construct) (pos : Nat), ∃ searches,
      (∀ searches' result, Closes construct text pos searches' result ↔
        searches' = searches ∧ result = construct.findCloser text pos) ∧
      ∃ body, Forward body 0 searches) ∧
    ∃ searches rounds,
      (∀ searches' rounds' spans last, Scans constructs text state searches' rounds' spans last ↔
        searches' = searches ∧ rounds' = rounds ∧ (spans, last) = regions constructs text state) ∧
      (∃ body, Forward body 0 searches) ∧ Advances text 0 rounds := by
  refine ⟨fun construct pos start stop h => ?_, fun _ _ _ _ => lt_behind, fun _ _ _ => lt_next,
    fun construct pos => ?_, ?_⟩
  · have hle := findOpener_le h
    exact ⟨hle.1, hle.2, (findOpener_isBoundary h).2.le_byteLength⟩
  · obtain ⟨searches, hcloses⟩ := exists_closes construct text pos
    refine ⟨searches, fun searches' result => ⟨fun h => hcloses.unique h, ?_⟩, hcloses.forward⟩
    rintro ⟨rfl, rfl⟩
    exact hcloses
  · obtain ⟨searches, rounds, hscans⟩ := exists_scans constructs text state
    refine ⟨searches, rounds, fun searches' rounds' spans last => ⟨fun h => ?_, ?_⟩, hscans.forward⟩
    · obtain ⟨hsearches, hrounds, hspans, hlast⟩ := hscans.unique h
      exact ⟨hsearches, hrounds, Prod.ext hspans hlast⟩
    · rintro ⟨rfl, rfl, heq⟩
      obtain ⟨rfl, rfl⟩ := Prod.mk.inj heq
      exact hscans

/-- A construct that opens everywhere and closes at a word's edge, unless that is escaped. -/
def everywhere : Construct where
  name := "everywhere"
  opener := .empty
  closer := .wordBoundary
  category := .string
  escape := some '\\'
  id := 1

/-- Behind an escaped closer of no length, the search goes on inside a character, and from there to the
closer at the end. -/
theorem scanning_ends_inside_character :
    (everywhere.findOpener ['\\', 'é'] 2 = some (3, 3) ∧
      2 ≤ 3 ∧ 3 ≤ 3 ∧ 3 ≤ Text.byteLength ['\\', 'é']) ∧
    (∃ m, Search.found? ⟨everywhere.closer, ['\\', 'é'], 0⟩ = some m ∧ behind m = 2 ∧ 0 < behind m) ∧
    (∃ opening, firstOpening ['\\', 'é'] 0 [everywhere] = some opening ∧
      opening.construct.findCloser ['\\', 'é'] opening.stop = some 3 ∧
      0 < max 3 (opening.start + 1)) ∧
    ∃ searches rounds, Scans [everywhere] ['\\', 'é'] .normal searches rounds [⟨0, 3, .string⟩] .normal ∧
      Advances ['\\', 'é'] 0 rounds := by
  obtain ⟨hopener, hcloser, hline, -, searches, rounds, hscans, -, hrounds⟩ :=
    scanning_ends [everywhere] ['\\', 'é'] .normal
  have hopen : everywhere.findOpener ['\\', 'é'] 2 = some (3, 3) := by decide +kernel
  have hfound : Search.found? ⟨everywhere.closer, ['\\', 'é'], 0⟩ =
      some ⟨.between ['\\'] ['é'], .between ['\\'] ['é'], []⟩ := rfl
  have hfirst : firstOpening ['\\', 'é'] 0 [everywhere] = some ⟨0, 0, everywhere⟩ := rfl
  have hclose : everywhere.findCloser ['\\', 'é'] 0 = some 3 := by decide +kernel
  refine ⟨⟨hopen, hopener _ _ _ _ hopen⟩, ⟨_, hfound, by decide +kernel, hcloser _ _ _ _ hfound⟩,
    ⟨_, hfirst, hclose, hline _ _ _ hfirst hclose⟩, searches, rounds, ?_, hrounds⟩
  exact (hscans _ _ _ _).2 ⟨rfl, rfl, by decide +kernel⟩

end Construct

end Highlighter
