import Highlighter.Proofs.Toml.Order
import Highlighter.Settings

/-!
What a table of settings says, item by item. The settings are read exactly if every item is as it should
be, and if not, the first item that is not is reported. Of two keys that name one category, the greater
one counts.
-/
namespace Highlighter

open SortedMap

/-! ## Names of categories -/

/-- The key is the name of the category in some ASCII case. -/
def Category.NamedBy (category : Category) (key : String) : Prop :=
  key.toList.map Char.toLower = category.name.toList.map Char.toLower

instance (category : Category) (key : String) : Decidable (category.NamedBy key) :=
  inferInstanceAs (Decidable (_ = _))

theorem Category.eq_of_lower_name {a b : Category}
    (h : a.name.toList.map Char.toLower = b.name.toList.map Char.toLower) : a = b := by
  revert h
  cases a <;> cases b <;> decide

theorem Category.NamedBy.unique {a b : Category} {key : String} (ha : a.NamedBy key) (hb : b.NamedBy key) :
    a = b :=
  eq_of_lower_name (ha.symm.trans hb)

theorem Category.ofName?_eq_some_iff {category : Category} {key : String} :
    ofName? key.toList = some category ↔ category.NamedBy key := by
  have hfound : ∀ {other : Category}, ofName? key.toList = some other → other.NamedBy key := fun h =>
    (beq_iff_eq.1 (List.find?_some h :)).symm
  refine ⟨hfound, fun h => ?_⟩
  obtain ⟨other, hother⟩ : ∃ other, ofName? key.toList = some other :=
    Option.isSome_iff_exists.1 (List.find?_isSome.2 ⟨category, mem_all category, beq_iff_eq.2 h.symm⟩)
  rw [hother, (hfound hother).unique h]

theorem Category.ofName?_eq_none_iff {key : String} :
    ofName? key.toList = none ↔ ∀ category : Category, ¬ category.NamedBy key := by
  simp only [← ofName?_eq_some_iff, Option.eq_none_iff_forall_ne_some, ne_eq]

namespace Settings

/-! ## Items -/

/-- The entries of the table under a key, if there is one. -/
def tableAt (key : String) (table : Toml.Entries) : Toml.Entries :=
  match find? key table with
  | some (.table _ entries) => entries
  | _ => []

theorem ordered_tableAt {table : Toml.Entries} (h : table.Ordered) (key : String) :
    (tableAt key table).Ordered := by
  unfold tableAt
  split
  · rename_i hentries
    exact .of_table (h.find? hentries)
  · exact .nil

/-- What is looked at on its own. -/
inductive Item
  | switch (key : String) (value : Toml.Value)
  | table (key : String) (value : Toml.Value)
  | style (name : String) (value : Toml.Value)
  | extension (mode : String) (value : Toml.Value)

/-- The items of a table, in the order in which they are looked at. -/
def items (table : Toml.Entries) : List Item :=
  (find? "color" table).toList.map (.switch "color") ++
    ((find? "syntax" table).toList.map (.switch "syntax") ++
      ((find? "styles" table).toList.map (.table "styles") ++
        ((tableAt "styles" table).map (fun entry => .style entry.1 entry.2) ++
          ((find? "extensions" table).toList.map (.table "extensions") ++
            (tableAt "extensions" table).map fun entry => .extension entry.1 entry.2))))

/-- A switch is a boolean and a table is one. A style has a category in its key and a description that is
understood, and extensions are strings in an array. -/
inductive Item.Accepted : Item → Prop
  | switch (key : String) (b : Bool) : Accepted (.switch key (.boolean b))
  | table (key : String) (form : Toml.TableForm) (entries : Toml.Entries) :
      Accepted (.table key (.table form entries))
  | style {name description style} {category : Category} : category.NamedBy name →
      Style.parse description = .ok style → Accepted (.style name (.string description))
  | extension (mode : String) (ofHeaders : Bool) (list : List String) :
      Accepted (.extension mode (.array ofHeaders (list.map .string)))

/-- What is wrong with an item. A wrong value counts only where the category is known. -/
inductive Item.Offends : Item → Fault → Prop
  | switch {key value} : (∀ b, value ≠ .boolean b) →
      Offends (.switch key value) (.wrongSetting key "a boolean")
  | table {key value} : (∀ form entries, value ≠ .table form entries) →
      Offends (.table key value) (.wrongSetting key "a table")
  | category {name value} : (∀ category : Category, ¬ category.NamedBy name) →
      Offends (.style name value) (.unknownCategory name)
  | noDescription {name value} {category : Category} : category.NamedBy name →
      (∀ description, value ≠ .string description) →
      Offends (.style name value) (.wrongSetting ("styles." ++ name) "a string")
  | description {name description fault} {category : Category} : category.NamedBy name →
      Style.parse description = .error fault → Offends (.style name (.string description)) fault
  | noArray {mode value} : (∀ ofHeaders elements, value ≠ .array ofHeaders elements) →
      Offends (.extension mode value) (.wrongSetting ("extensions." ++ mode) "an array")
  | noStrings {mode ofHeaders elements} : (∃ element ∈ elements, ∀ s, element ≠ .string s) →
      Offends (.extension mode (.array ofHeaders elements))
        (.wrongSetting ("extensions." ++ mode) "strings")

/-- The fault is that of the first item that is not accepted. -/
def Reported (items : List Item) (fault : Fault) : Prop :=
  ∃ before item after, items = before ++ item :: after ∧ (∀ other ∈ before, other.Accepted) ∧
    item.Offends fault

/-- All items are accepted, or the first one that is not is reported. -/
def Checks {α : Type} (items : List Item) : Except Fault α → Prop
  | .ok _ => ∀ item ∈ items, item.Accepted
  | .error fault => Reported items fault

variable {α β : Type} {a b : List Item} {item : Item} {fault : Fault}

theorem Checks.of_offends (h : item.Offends fault) : Checks [item] (.error fault : Except Fault α) :=
  ⟨[], item, [], rfl, List.forall_mem_nil _, h⟩

theorem Checks.of_accepted (h : item.Accepted) (x : α) : Checks [item] (.ok x : Except Fault α) :=
  fun _ hitem => List.mem_singleton.1 hitem ▸ h

theorem Checks.bind {x : Except Fault α} {f : α → Except Fault β} (hx : Checks a x)
    (hf : ∀ v, x = .ok v → Checks b (f v)) : Checks (a ++ b) (x >>= f) := by
  cases x with
  | error fault =>
      obtain ⟨before, item, after, rfl, hbefore, hitem⟩ := hx
      exact ⟨before, item, after ++ b, by simp, hbefore, hitem⟩
  | ok v =>
      have hrest := hf v rfl
      show Checks (a ++ b) (f v)
      cases hv : f v with
      | ok w =>
          rw [hv] at hrest
          exact fun item hitem => (List.mem_append.1 hitem).elim (hx item) (hrest item)
      | error fault =>
          rw [hv] at hrest
          obtain ⟨before, item, after, rfl, hbefore, hitem⟩ := hrest
          refine ⟨a ++ before, item, after, by simp, fun other hother => ?_, hitem⟩
          exact (List.mem_append.1 hother).elim (hx other) (hbefore other)

theorem Checks.map {x : Except Fault α} (h : Checks a x) (f : α → β) : Checks a (x.map f) := by
  cases x with
  | ok v => exact h
  | error fault => exact h

/-! ## What is read and what is reported -/

theorem Item.Accepted.not_offends (h : item.Accepted) : ¬ item.Offends fault := by
  intro hoffends
  cases h with
  | switch key b =>
      cases hoffends with
      | switch hno => exact hno b rfl
  | table key form entries =>
      cases hoffends with
      | table hno => exact hno form entries rfl
  | style hnamed hparse =>
      cases hoffends with
      | category hnone => exact hnone _ hnamed
      | noDescription _ hno => exact hno _ rfl
      | description _ hfault =>
          rw [hparse] at hfault
          cases hfault
  | extension mode ofHeaders list =>
      cases hoffends with
      | noArray hno => exact hno _ _ rfl
      | noStrings hsome =>
          obtain ⟨element, helement, hno⟩ := hsome
          obtain ⟨s, -, rfl⟩ := List.mem_map.1 helement
          exact hno s rfl

theorem Item.Offends.unique {fault' : Fault} (h : item.Offends fault) (h' : item.Offends fault') :
    fault = fault' := by
  cases h with
  | switch => cases h'; rfl
  | table => cases h'; rfl
  | category hnone =>
      cases h' with
      | category => rfl
      | noDescription hnamed => exact absurd hnamed (hnone _)
      | description hnamed => exact absurd hnamed (hnone _)
  | noDescription hnamed hvalue =>
      cases h' with
      | category hnone => exact absurd hnamed (hnone _)
      | noDescription => rfl
      | description => exact absurd rfl (hvalue _)
  | description hnamed hparse =>
      cases h' with
      | category hnone => exact absurd hnamed (hnone _)
      | noDescription _ hvalue => exact absurd rfl (hvalue _)
      | description _ hparse' => exact Except.error.inj (hparse.symm.trans hparse')
  | noArray hvalue =>
      cases h' with
      | noArray => rfl
      | noStrings => exact absurd rfl (hvalue _ _)
  | noStrings =>
      cases h' with
      | noArray hvalue => exact absurd rfl (hvalue _ _)
      | noStrings => rfl

theorem Reported.unique {fault' : Fault} (h : Reported a fault) (h' : Reported a fault') :
    fault = fault' := by
  obtain ⟨before, item, after, rfl, hbefore, hitem⟩ := h
  induction before with
  | nil =>
      obtain ⟨before', item', after', heq, hbefore', hitem'⟩ := h'
      cases before' with
      | nil =>
          obtain ⟨rfl, -⟩ := List.cons.inj heq
          exact hitem.unique hitem'
      | cons first before' =>
          obtain ⟨rfl, -⟩ := List.cons.inj heq
          exact absurd hitem (hbefore' _ List.mem_cons_self).not_offends
  | cons first before ih =>
      obtain ⟨hfirst, hbefore⟩ := List.forall_mem_cons.1 hbefore
      obtain ⟨before', item', after', heq, hbefore', hitem'⟩ := h'
      cases before' with
      | nil =>
          obtain ⟨rfl, -⟩ := List.cons.inj heq
          exact absurd hitem' hfirst.not_offends
      | cons first' before' =>
          obtain ⟨rfl, hrest⟩ := List.cons.inj heq
          exact ih ⟨before', item', after', hrest, (List.forall_mem_cons.1 hbefore').2, hitem'⟩ hbefore

theorem Reported.exists_not_accepted (h : Reported a fault) : ¬ ∀ item ∈ a, item.Accepted := by
  obtain ⟨before, item, after, rfl, -, hitem⟩ := h
  exact fun hall => (hall item (by simp)).not_offends hitem

theorem Checks.ok_iff {x : Except Fault α} (h : Checks a x) :
    (∃ v, x = .ok v) ↔ ∀ item ∈ a, item.Accepted := by
  cases x with
  | ok v => exact iff_of_true ⟨v, rfl⟩ h
  | error fault => exact iff_of_false (fun ⟨_, hv⟩ => nomatch hv) h.exists_not_accepted

theorem Checks.error_iff {x : Except Fault α} (h : Checks a x) : x = .error fault ↔ Reported a fault := by
  cases x with
  | ok v => exact iff_of_false (fun hv => nomatch hv) fun hreported => hreported.exists_not_accepted h
  | error fault' =>
      rw [Except.error.injEq]
      exact ⟨fun heq => heq ▸ h, h.unique⟩

/-! ## Reading -/

theorem checks_readBool (key : String) (absent : Bool) (table : Toml.Entries) :
    Checks ((find? key table).toList.map (.switch key)) (readBool key absent table) := by
  unfold readBool
  split
  · rename_i hnone
    rw [hnone]
    exact List.forall_mem_nil _
  · rename_i b hb
    rw [hb]
    exact .of_accepted (.switch key b) b
  · rename_i value hno hvalue
    rw [hvalue]
    exact .of_offends (.switch fun b hb => hno b (hb ▸ rfl))

theorem checks_readTable (key : String) (table : Toml.Entries) :
    Checks ((find? key table).toList.map (.table key)) (readTable key table) := by
  unfold readTable
  split
  · rename_i hnone
    rw [hnone]
    exact List.forall_mem_nil _
  · rename_i form entries hentries
    rw [hentries]
    exact .of_accepted (.table key form entries) entries
  · rename_i value hno hvalue
    rw [hvalue]
    exact .of_offends (.table fun form entries heq => hno form entries (heq ▸ rfl))

theorem checks_readStyle (name : String) (value : Toml.Value) :
    Checks [.style name value] (readStyle name value) := by
  unfold readStyle
  split
  · rename_i hnone
    exact .of_offends (.category (Category.ofName?_eq_none_iff.1 hnone))
  · rename_i category description hcategory
    have hnamed := Category.ofName?_eq_some_iff.1 hcategory
    cases hparse : Style.parse description with
    | error fault => exact .of_offends (.description hnamed hparse)
    | ok style => exact .of_accepted (.style hnamed hparse) _
  · rename_i category hcategory hno
    exact .of_offends (.noDescription (Category.ofName?_eq_some_iff.1 hcategory) hno)

theorem readStyles_cons (theme : Theme) (name : String) (value : Toml.Value) (entries : Toml.Entries) :
    readStyles theme ((name, value) :: entries) =
      (readStyle name value).bind fun read => readStyles (theme.set read.1 read.2) entries := by
  rw [readStyles]
  cases readStyle name value <;> rfl

theorem checks_readStyles (theme : Theme) (entries : Toml.Entries) :
    Checks (entries.map fun entry => .style entry.1 entry.2) (readStyles theme entries) := by
  induction entries generalizing theme with
  | nil => exact List.forall_mem_nil _
  | cons entry entries ih =>
      rw [readStyles_cons]
      exact (checks_readStyle entry.1 entry.2).bind fun read _ => ih _

theorem readExtensionList_cases (mode : String) (values : List Toml.Value) :
    (∃ list : List String, values = list.map .string ∧ readExtensionList mode values = .ok list) ∨
      ((∃ value ∈ values, ∀ s, value ≠ .string s) ∧
        readExtensionList mode values = .error (.wrongSetting ("extensions." ++ mode) "strings")) := by
  induction values with
  | nil => exact .inl ⟨[], rfl, rfl⟩
  | cons value values ih =>
      by_cases hvalue : ∃ s, value = .string s
      · obtain ⟨s, rfl⟩ := hvalue
        rw [readExtensionList]
        rcases ih with ⟨list, rfl, hlist⟩ | ⟨⟨value, hmem, hno⟩, hfault⟩
        · exact .inl ⟨s :: list, rfl, by rw [hlist]; rfl⟩
        · exact .inr ⟨⟨value, List.mem_cons_of_mem _ hmem, hno⟩, by rw [hfault]; rfl⟩
      · have hno : ∀ s, value ≠ .string s := fun s hs => hvalue ⟨s, hs⟩
        refine .inr ⟨⟨value, List.mem_cons_self, hno⟩, ?_⟩
        rw [readExtensionList]
        exact fun s => hno s

/-- What the first of the entries comes to. -/
theorem readExtensions_cases (mode : String) (value : Toml.Value) (entries : Toml.Entries) :
    (∃ ofHeaders list, value = .array ofHeaders (list.map .string) ∧
        readExtensions ((mode, value) :: entries) = (readExtensions entries).map ((mode, list) :: ·)) ∨
      ∃ fault, Item.Offends (.extension mode value) fault ∧
        readExtensions ((mode, value) :: entries) = .error fault := by
  by_cases hvalue : ∃ ofHeaders elements, value = .array ofHeaders elements
  · obtain ⟨ofHeaders, elements, rfl⟩ := hvalue
    rw [readExtensions]
    rcases readExtensionList_cases mode elements with ⟨list, rfl, hlist⟩ | ⟨hsome, hfault⟩
    · rw [hlist]
      exact .inl ⟨ofHeaders, list, rfl, rfl⟩
    · rw [hfault]
      exact .inr ⟨_, .noStrings hsome, rfl⟩
  · have hno : ∀ ofHeaders elements, value ≠ .array ofHeaders elements :=
      fun ofHeaders elements heq => hvalue ⟨ofHeaders, elements, heq⟩
    rw [readExtensions]
    · exact .inr ⟨_, .noArray hno, rfl⟩
    · exact fun ofHeaders elements => hno ofHeaders elements

theorem checks_readExtensions (entries : Toml.Entries) :
    Checks (entries.map fun entry => .extension entry.1 entry.2) (readExtensions entries) := by
  induction entries with
  | nil => exact List.forall_mem_nil _
  | cons entry entries ih =>
      obtain ⟨mode, value⟩ := entry
      rcases readExtensions_cases mode value entries with ⟨ofHeaders, list, rfl, heq⟩ | ⟨fault, hfault, heq⟩
      · rw [heq]
        have hfirst : Checks [.extension mode (.array ofHeaders (list.map .string))] (.ok list) :=
          .of_accepted (.extension mode ofHeaders list) list
        exact hfirst.bind fun _ _ => ih.map _
      · rw [heq]
        exact ⟨[], _, _, rfl, List.forall_mem_nil _, hfault⟩

theorem eq_tableAt_of_readTable {key : String} {table entries : Toml.Entries}
    (h : readTable key table = .ok entries) : entries = tableAt key table := by
  unfold readTable at h
  unfold tableAt
  split at h
  · rename_i hnone
    rw [hnone]
    cases h
    rfl
  · rename_i form entries' hentries
    rw [hentries]
    cases h
    rfl
  · cases h

theorem checks_ofTable (table : Toml.Entries) : Checks (items table) (ofTable table) := by
  refine (checks_readBool "color" true table).bind fun color _ => ?_
  refine (checks_readBool "syntax" true table).bind fun highlighting _ => ?_
  refine (checks_readTable "styles" table).bind fun styles hstyles => ?_
  rw [← eq_tableAt_of_readTable hstyles]
  refine (checks_readStyles {} styles).bind fun theme _ => ?_
  refine (checks_readTable "extensions" table).bind fun extensions hextensions => ?_
  rw [← eq_tableAt_of_readTable hextensions]
  exact (checks_readExtensions extensions).map _

/-! ## What is read -/

/-- What a switch is set to, or what holds without it. -/
def switchAt (key : String) (absent : Bool) (table : Toml.Entries) : Bool :=
  match find? key table with
  | some (.boolean b) => b
  | _ => absent

/-- The style of a category is that of the greatest key that names it. If none does, the category is shown
as before. -/
inductive Styled (entries : Toml.Entries) (category : Category) (before : Style) : Style → Prop
  | named {key description style} : (key, .string description) ∈ entries → category.NamedBy key →
      (∀ entry ∈ entries, category.NamedBy entry.1 → entry.1 ≤ key) →
      Style.parse description = .ok style → Styled entries category before style
  | unnamed : (∀ entry ∈ entries, ¬ category.NamedBy entry.1) → Styled entries category before before

/-- The settings are those of the table. -/
structure Follows (settings : Settings) (table : Toml.Entries) : Prop where
  color : settings.color = switchAt "color" true table
  highlighting : settings.highlighting = switchAt "syntax" true table
  theme : ∀ category, Styled (tableAt "styles" table) category category.defaultStyle
    (settings.theme.style category)
  modes : settings.extensions.keys = (tableAt "extensions" table).map Prod.fst
  extensions : ∀ mode list, settings.extensions.get? mode = some list ↔
    ∃ ofHeaders, find? mode (tableAt "extensions" table) = some (.array ofHeaders (list.map .string))

theorem eq_switchAt_of_readBool {key : String} {absent b : Bool} {table : Toml.Entries}
    (h : readBool key absent table = .ok b) : b = switchAt key absent table := by
  unfold readBool at h
  unfold switchAt
  split at h
  · rename_i hnone
    rw [hnone]
    cases h
    rfl
  · rename_i b' hb
    rw [hb]
    cases h
    rfl
  · cases h

theorem exists_of_bind_eq_ok {x : Except Fault α} {f : α → Except Fault β} {w : β}
    (h : x >>= f = .ok w) : ∃ v, x = .ok v ∧ f v = .ok w := by
  cases x with
  | error fault => cases h
  | ok v => exact ⟨v, rfl, h⟩

theorem exists_of_map_eq_ok {x : Except Fault α} {f : α → β} {w : β} (h : x.map f = .ok w) :
    ∃ v, x = .ok v ∧ f v = w := by
  cases x with
  | error fault => cases h
  | ok v => exact ⟨v, rfl, Except.ok.inj h⟩

theorem of_readStyle {name : String} {value : Toml.Value} {category : Category} {style : Style}
    (h : readStyle name value = .ok (category, style)) :
    category.NamedBy name ∧ ∃ description, value = .string description ∧
      Style.parse description = .ok style := by
  unfold readStyle at h
  split at h
  · cases h
  · rename_i category' description hcategory
    obtain ⟨style', hparse, heq⟩ := exists_of_map_eq_ok h
    cases heq
    exact ⟨Category.ofName?_eq_some_iff.1 hcategory, description, rfl, hparse⟩
  · cases h

theorem styled_readStyles {entries : Toml.Entries} (h : InOrder entries) {theme last : Theme}
    (hread : readStyles theme entries = .ok last) (category : Category) :
    Styled entries category (theme.style category) (last.style category) := by
  induction h generalizing theme with
  | nil =>
      cases hread
      exact .unnamed (List.forall_mem_nil _)
  | @cons entry entries hfirst _ ih =>
      obtain ⟨name, value⟩ := entry
      rw [readStyles_cons] at hread
      obtain ⟨⟨found, style⟩, hstyle, hrest⟩ := exists_of_bind_eq_ok hread
      obtain ⟨hfound, description, rfl, hparse⟩ := of_readStyle hstyle
      have hnext := ih hrest
      generalize hlast : last.style category = shown at hnext ⊢
      cases hnext with
      | @named key _ _ hmem hnamed hgreatest hparse' =>
          -- a key behind it names the category too, and it is greater
          refine .named (List.mem_cons_of_mem _ hmem) hnamed (fun entry hentry hentry' => ?_) hparse'
          rcases List.mem_cons.1 hentry with rfl | hentry
          · exact Std.le_of_lt (hfirst _ hmem)
          · exact hgreatest entry hentry hentry'
      | unnamed hnone =>
          by_cases hsame : found = category
          · subst hsame
            rw [Theme.style_set_self]
            refine .named List.mem_cons_self hfound (fun entry hentry hentry' => ?_) hparse
            rcases List.mem_cons.1 hentry with rfl | hentry
            · exact Std.le_refl _
            · exact absurd hentry' (hnone entry hentry)
          · rw [Theme.style_set_of_ne _ (Ne.symm hsame)]
            refine .unnamed (List.forall_mem_cons.2 ⟨fun hnamed => ?_, hnone⟩)
            exact hsame (hfound.unique hnamed)

theorem of_readExtensions {entries : Toml.Entries} {list : List (String × List String)}
    (hread : readExtensions entries = .ok list) :
    list.map Prod.fst = entries.map Prod.fst ∧ ∀ mode strings, find? mode list = some strings ↔
      ∃ ofHeaders, find? mode entries = some (.array ofHeaders (strings.map .string)) := by
  induction entries generalizing list with
  | nil =>
      cases hread
      exact ⟨rfl, fun mode strings => by simp [find?]⟩
  | cons entry entries ih =>
      obtain ⟨first, value⟩ := entry
      rcases readExtensions_cases first value entries with ⟨ofHeaders, found, rfl, heq⟩ | ⟨fault, -, heq⟩
      · rw [heq] at hread
        obtain ⟨rest, hrest, rfl⟩ := exists_of_map_eq_ok hread
        obtain ⟨hkeys, hfind⟩ := ih hrest
        refine ⟨congrArg (first :: ·) hkeys, fun mode strings => ?_⟩
        by_cases hmode : first = mode
        · subst hmode
          simp [find?, List.map_inj_right]
        · simpa [find?, hmode] using hfind mode strings
      · rw [heq] at hread
        cases hread

theorem Follows.of_ofTable {table : Toml.Entries} (h : table.Ordered) {settings : Settings}
    (hread : ofTable table = .ok settings) : settings.Follows table := by
  obtain ⟨color, hcolor, hread⟩ := exists_of_bind_eq_ok hread
  obtain ⟨highlighting, hhighlighting, hread⟩ := exists_of_bind_eq_ok hread
  obtain ⟨styles, hstyles, hread⟩ := exists_of_bind_eq_ok hread
  obtain ⟨theme, htheme, hread⟩ := exists_of_bind_eq_ok hread
  obtain ⟨given, hgiven, hread⟩ := exists_of_bind_eq_ok hread
  obtain ⟨extensions, hextensions, hread⟩ := exists_of_bind_eq_ok hread
  cases hread
  obtain rfl := eq_tableAt_of_readTable hstyles
  obtain rfl := eq_tableAt_of_readTable hgiven
  obtain ⟨hmodes, hlists⟩ := of_readExtensions hextensions
  exact {
    color := eq_switchAt_of_readBool hcolor
    highlighting := eq_switchAt_of_readBool hhighlighting
    theme := styled_readStyles (ordered_tableAt h "styles").keys htheme
    modes := hmodes
    extensions := hlists }

/-- The settings in a table are read exactly if every item of the table is accepted, and then they are what
the table says. If not, what is reported is what is wrong with the first item that is not accepted. The
tables that documents hold are in order, so this is what the documents set. -/
theorem ofTable_by_items :
    (∀ table : Toml.Entries, table.Ordered →
      ((∃ settings, ofTable table = .ok settings) ↔ ∀ item ∈ items table, item.Accepted) ∧
      (∀ settings, ofTable table = .ok settings → settings.Follows table) ∧
      ∀ fault, ofTable table = .error fault ↔ Reported (items table) fault) ∧
    ∀ (text : Text) (table : Toml.Entries), Toml.parse text = .ok table →
      table.Ordered ∧ parse text = ofTable table := by
  refine ⟨fun table h => ?_, fun text table h => ⟨Toml.ordered_of_parse h, by rw [parse, h]⟩⟩
  exact ⟨(checks_ofTable table).ok_iff, fun _ => Follows.of_ofTable h,
    fun _ => (checks_ofTable table).error_iff⟩

/-- In a document, two keys name one category, and in another table a key that names none has a wrong
value. -/
theorem ofTable_by_items_two_names :
    let text : Text := "[styles]\nkeyword='red'\nKEYWORD='bold'".toList
    let wrong : Toml.Entries :=
      [("extensions", .integer 1), ("styles", .table .header [("Type", .string "red"), ("kind", .integer 2)])]
    (∃ table settings, Toml.parse text = .ok table ∧ parse text = .ok settings ∧
      settings.Follows table ∧ settings.theme.style .keyword = { fg := .red }) ∧
    wrong.Ordered ∧ ofTable wrong = .error (.unknownCategory "kind") := by
  intro text wrong
  obtain ⟨hitems, hparse⟩ := ofTable_by_items
  constructor
  · have hred : (parse text).toOption.map (·.theme.style .keyword) = some { fg := .red } := by
      decide +kernel
    cases htable : Toml.parse text with
    | error cause =>
        rw [parse, htable] at hred
        cases hred
    | ok table =>
        obtain ⟨hordered, hread⟩ := hparse text table htable
        cases hsettings : ofTable table with
        | error fault =>
            rw [hread, hsettings] at hred
            cases hred
        | ok settings =>
            rw [hread, hsettings] at hred
            exact ⟨table, settings, rfl, hread.trans hsettings, (hitems table hordered).2.1 _ hsettings,
              Option.some.inj hred⟩
  · have hwrong : wrong.Ordered := by
      have hstyles : (Toml.Value.table .header [("Type", .string "red"), ("kind", .integer 2)]).Ordered :=
        .table _ (List.pairwise_pair.2 (by decide)) (by
          simp [Toml.Value.Ordered.string, Toml.Value.Ordered.integer])
      refine ⟨List.pairwise_pair.2 (by decide), ?_⟩
      simpa [wrong] using ⟨.integer 1, hstyles⟩
    refine ⟨hwrong, ((hitems wrong hwrong).2.2 _).2
      ⟨[.table "styles" _, .style "Type" _], _, _, rfl, ?_, .category fun category => ?_⟩⟩
    · have htype : Category.NamedBy .typeName "Type" := by decide
      simpa using ⟨.table .., .style htype (show Style.parse "red" = .ok { fg := .red } by rfl)⟩
    · cases category <;> decide

end Settings

end Highlighter
