import Highlighter.CommandLine.Options

/-!
Command lines one behind the other. A command line is read item by item, and what it asks for can be told
from its items: which options stand in it, which mode is named last, and which files are named. So it asks
for what its parts ask for, unless a part ends between an option and the name of the mode.
-/
namespace Highlighter.Options

/-- The options of a command line, and those of another one behind it. -/
def merge (x y : Options) : Options where
  mode := y.mode.or x.mode
  spans := x.spans || y.spans
  noColor := x.noColor || y.noColor
  listModes := x.listModes || y.listModes
  help := x.help || y.help
  version := x.version || y.version
  files := x.files ++ y.files

@[simp] theorem merge_empty (x : Options) : x.merge {} = x := by
  simp [merge]

@[simp] theorem empty_merge (x : Options) : merge {} x = x := by
  simp [merge]

theorem merge_assoc (x y z : Options) : (x.merge y).merge z = x.merge (y.merge z) := by
  simp [merge, Bool.or_assoc, Option.or_assoc]

/-- Where modes do not meet, and files do not either, the order does not matter. -/
theorem merge_comm {x y : Options} (hmode : x.mode = none ∨ y.mode = none)
    (hfiles : x.files = [] ∨ y.files = []) : x.merge y = y.merge x := by
  have hmodes : y.mode.or x.mode = x.mode.or y.mode := by
    rcases hmode with h | h <;> simp [h]
  have hboth : x.files ++ y.files = y.files ++ x.files := by
    rcases hfiles with h | h <;> simp [h]
  simp only [merge, hmodes, hboth, Bool.or_comm]

/-! ## Items -/

/-- An option or a file, or an option that needs the name of a mode, and the name behind it. -/
inductive Item
  | single (arg : String) (known : Argument.ofString arg ≠ .mode ∧ Argument.ofString arg ≠ .unknown)
  | mode (option name : String) (needs : Argument.ofString option = .mode)

namespace Item

def words : Item → List String
  | single arg _ => [arg]
  | mode option name _ => [option, name]

def argument : Item → Argument
  | single arg _ => .ofString arg
  | mode .. => .mode

def mode? : Item → Option String
  | single .. => none
  | mode _ name _ => some name

def file? : Item → Option String
  | single arg _ => if Argument.ofString arg = .file then some arg else none
  | mode .. => none

end Item

/-- What items ask for, whatever their order: of the modes the last one counts, and the files stay in order. -/
def ofItems (items : List Item) : Options where
  mode := (items.filterMap Item.mode?).getLast?
  spans := items.any (·.argument = .spans)
  noColor := items.any (·.argument = .noColor)
  listModes := items.any (·.argument = .listModes)
  help := items.any (·.argument = .help)
  version := items.any (·.argument = .version)
  files := items.filterMap Item.file?

/-- What is left where no item can be read, and what is reported: an option that lacks the name of a mode,
or an unknown option and all that is behind it. -/
inductive Rest : List String → Option Fault → Prop
  | nil : Rest [] none
  | lone {option} : Argument.ofString option = .mode → Rest [option] (some (.missingModeName option))
  | unknown {option} (more : List String) : Argument.ofString option = .unknown →
      Rest (option :: more) (some (.unknownOption option))

variable {a b args rest : List String} {fault : Option Fault} {x y : Options}

theorem ofItems_append (items more : List Item) :
    ofItems (items ++ more) = (ofItems items).merge (ofItems more) := by
  simp [ofItems, merge, List.filterMap_append, List.getLast?_append]

/-- A command line is a list of items, up to its rest. -/
theorem exists_items (args : List String) :
    ∃ (items : List Item) (rest : List String) (fault : Option Fault),
      args = items.flatMap Item.words ++ rest ∧ Rest rest fault := by
  match args with
  | [] => exact ⟨[], [], none, rfl, .nil⟩
  | arg :: more =>
      by_cases hmode : Argument.ofString arg = .mode
      · match more with
        | [] => exact ⟨[], [arg], _, rfl, .lone hmode⟩
        | name :: more =>
            obtain ⟨items, rest, fault, rfl, hrest⟩ := exists_items more
            exact ⟨.mode arg name hmode :: items, rest, fault, rfl, hrest⟩
      · by_cases hunknown : Argument.ofString arg = .unknown
        · exact ⟨[], arg :: more, _, rfl, .unknown more hunknown⟩
        · obtain ⟨items, rest, fault, rfl, hrest⟩ := exists_items more
          exact ⟨.single arg ⟨hmode, hunknown⟩ :: items, rest, fault, rfl, hrest⟩

/-- One item is read. -/
theorem extend_item (options : Options) (item : Item) (rest : List String) :
    extend options (item.words ++ rest) = extend (options.merge (ofItems [item])) rest := by
  cases item with
  | mode option name needs =>
      simp [Item.words, extend, needs, merge, ofItems, Item.argument, Item.mode?, Item.file?,
        List.filterMap_cons]
  | single arg known =>
      cases harg : Argument.ofString arg with
      | mode => exact absurd harg known.1
      | unknown => exact absurd harg known.2
      | _ =>
          simp [Item.words, extend, harg, merge, ofItems, Item.argument, Item.mode?, Item.file?,
            List.filterMap_cons]

theorem extend_items (options : Options) (items : List Item) (rest : List String) :
    extend options (items.flatMap Item.words ++ rest) = extend (options.merge (ofItems items)) rest := by
  induction items generalizing options with
  | nil => exact congrArg (extend · rest) (merge_empty options).symm
  | cons item items ih =>
      rw [List.flatMap_cons, List.append_assoc, extend_item, ih, merge_assoc, ← ofItems_append]
      rfl

theorem Rest.extend (h : Rest rest fault) (options : Options) :
    extend options rest = fault.elim (.ok options) .error := by
  cases h with
  | nil => rfl
  | lone hmode => simp [Options.extend, hmode]
  | unknown more hunknown => simp [Options.extend, hunknown]

theorem extend_eq (options : Options) (items : List Item) (hrest : Rest rest fault) :
    extend options (items.flatMap Item.words ++ rest) =
      fault.elim (.ok (options.merge (ofItems items))) .error := by
  rw [extend_items, hrest.extend]

/-- What arguments ask for does not depend on the options that are there before. -/
theorem extend_eq_map_parse (options : Options) (args : List String) :
    extend options args = (parse args).map options.merge := by
  obtain ⟨items, rest, fault, rfl, hrest⟩ := exists_items args
  rw [parse, extend_eq options items hrest, extend_eq {} items hrest, empty_merge]
  cases fault <;> rfl

theorem parse_eq_ok_iff :
    parse args = .ok x ↔ ∃ items : List Item, args = items.flatMap Item.words ∧ x = ofItems items := by
  constructor
  · intro h
    obtain ⟨items, rest, fault, rfl, hrest⟩ := exists_items args
    rw [parse, extend_eq {} items hrest, empty_merge] at h
    cases hrest with
    | nil =>
        cases h
        exact ⟨items, List.append_nil _, rfl⟩
    | lone | unknown => cases h
  · rintro ⟨items, rfl, rfl⟩
    have h := extend_eq {} items .nil
    rwa [List.append_nil, empty_merge] at h

theorem parse_eq_error_iff {e : Fault} :
    parse args = .error e ↔ ∃ (items : List Item) (rest : List String),
      args = items.flatMap Item.words ++ rest ∧ Rest rest (some e) := by
  constructor
  · intro h
    obtain ⟨items, rest, fault, rfl, hrest⟩ := exists_items args
    rw [parse, extend_eq {} items hrest] at h
    cases fault with
    | none => cases h
    | some e' =>
        cases h
        exact ⟨items, rest, rfl, hrest⟩
  · rintro ⟨items, rest, rfl, hrest⟩
    exact extend_eq {} items hrest

theorem parse_append_of_ok (h : parse a = .ok x) (b : List String) :
    parse (a ++ b) = (parse b).map x.merge := by
  obtain ⟨items, rfl, rfl⟩ := parse_eq_ok_iff.1 h
  rw [parse, extend_items, empty_merge, extend_eq_map_parse]

/-- An unknown option hides all that is behind it. -/
theorem parse_append_of_error {e : Fault} (h : parse a = .error e)
    (hlone : ∀ option, e ≠ .missingModeName option) (b : List String) : parse (a ++ b) = .error e := by
  obtain ⟨items, rest, rfl, hrest⟩ := parse_eq_error_iff.1 h
  cases hrest with
  | lone => exact absurd rfl (hlone _)
  | unknown more hunknown =>
      rw [List.append_assoc]
      exact parse_eq_error_iff.2 ⟨items, _, rfl, .unknown (more ++ b) hunknown⟩

/-- Two command lines, one behind the other, ask for what both ask for, and the failure of the first one
is that of both, unless the first one ends in an option that needs the name of a mode. Any list of items
is understood, and asks for the options and the files in it and for the last mode; the name of a mode can
be any word. What fails is the first unknown option, or an option at the end that lacks the name. -/
theorem parse_composes (a b : List String) :
    (∀ x, parse a = .ok x → parse (a ++ b) = (parse b).map x.merge) ∧
    (∀ e, parse a = .error e → (∀ option, e ≠ .missingModeName option) → parse (a ++ b) = .error e) ∧
    (∀ x y, parse a = .ok x → parse b = .ok y → (x.mode = none ∨ y.mode = none) →
      (x.files = [] ∨ y.files = []) → parse (a ++ b) = parse (b ++ a)) ∧
    (∀ x, parse a = .ok x ↔
      ∃ items : List Item, a = items.flatMap Item.words ∧ x = ofItems items) ∧
    ∀ e, parse a = .error e ↔ ∃ (items : List Item) (rest : List String),
      a = items.flatMap Item.words ++ rest ∧ Rest rest (some e) := by
  refine ⟨fun x h => parse_append_of_ok h b, fun e h hlone => parse_append_of_error h hlone b,
    fun x y ha hb hmode hfiles => ?_, fun x => parse_eq_ok_iff, fun e => parse_eq_error_iff⟩
  rw [parse_append_of_ok ha, parse_append_of_ok hb, ha, hb]
  exact congrArg Except.ok (merge_comm hmode hfiles)

/-- The name of a mode looks like an option, a second mode is named later, and at last an option is unknown. -/
theorem parse_composes_unknown :
    parse ["-s", "a.as", "-m", "--help"] =
        .ok { mode := some "--help", spans := true, files := ["a.as"] } ∧
      parse (["-s", "a.as", "-m", "--help"] ++ ["-", "--mode", "ecmascript", "-h"]) =
        .ok { mode := some "ecmascript", spans := true, help := true, files := ["a.as", "-"] } ∧
      parse (["-s", "a.as", "-m", "--help"] ++ ["--no-color"]) =
        parse (["--no-color"] ++ ["-s", "a.as", "-m", "--help"]) ∧
      parse (["-s", "--bogus", "-m"] ++ ["-x"]) = .error (.unknownOption "--bogus") := by
  have hfirst : parse ["-s", "a.as", "-m", "--help"] =
      .ok { mode := some "--help", spans := true, files := ["a.as"] } := by rfl
  refine ⟨hfirst, (parse_composes _ _).1 _ hfirst, ?_, ?_⟩
  · exact (parse_composes _ _).2.2.1 _ { noColor := true } hfirst (by rfl) (.inr rfl) (.inr rfl)
  · exact (parse_composes _ _).2.1 _ (by rfl) (fun option h => nomatch h)

end Highlighter.Options
