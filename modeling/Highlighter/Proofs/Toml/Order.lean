import Highlighter.Proofs.SortedMap
import Highlighter.Toml.Parser

/-!
Documents that have been read. In each of their tables, the keys stand in order, and each of them once.
-/
namespace Highlighter.Toml

open SortedMap

/-- The keys of every table in a value stand in order. -/
inductive Value.Ordered : Value → Prop
  | string (s : String) : Ordered (.string s)
  | integer (n : Int) : Ordered (.integer n)
  | float (written : String) : Ordered (.float written)
  | boolean (b : Bool) : Ordered (.boolean b)
  | date (written : String) : Ordered (.date written)
  | array (ofHeaders : Bool) {elements : List Value} : (∀ value ∈ elements, Ordered value) →
      Ordered (.array ofHeaders elements)
  | table (form : TableForm) {entries : List (String × Value)} : InOrder entries →
      (∀ entry ∈ entries, Ordered entry.2) → Ordered (.table form entries)

structure Entries.Ordered (entries : Entries) : Prop where
  keys : InOrder entries
  values : ∀ entry ∈ entries, entry.2.Ordered

/-- Whatever is read has the property. -/
def Yields {α : Type} (P : α → Prop) (result : Except Fault α) : Prop := ∀ x, result = .ok x → P x

section

variable {α β : Type} {P : α → Prop} {Q : β → Prop} {result : Except Fault α}

theorem Yields.ok {x : α} (h : P x) : Yields P (.ok x) := by
  rintro _ ⟨⟩
  exact h

theorem Yields.error (fault : Fault) : Yields P (.error fault) := fun _ h => nomatch h

theorem Yields.any (result : Except Fault α) : Yields (fun _ => True) result := fun _ _ => trivial

theorem Yields.bind {f : α → Except Fault β} (h : Yields P result) (hf : ∀ x, P x → Yields Q (f x)) :
    Yields Q (result >>= f) := by
  cases result with
  | error fault => exact .error fault
  | ok x => exact hf x (h x rfl)

theorem Yields.map {f : α → β} (h : Yields P result) (hf : ∀ x, P x → Q (f x)) :
    Yields Q (result.map f) := by
  cases result with
  | error fault => exact .error fault
  | ok x => exact .ok (hf x (h x rfl))

end

/-! ## Tables -/

namespace Entries

variable {entries : Entries}

theorem Ordered.nil : Ordered [] := ⟨.nil, List.forall_mem_nil _⟩

theorem Ordered.table (h : entries.Ordered) (form : TableForm) : (Value.table form entries).Ordered :=
  .table form h.keys h.values

theorem Ordered.of_table {form : TableForm} (h : (Value.table form entries).Ordered) : entries.Ordered := by
  cases h with
  | table _ hkeys hvalues => exact ⟨hkeys, hvalues⟩

theorem Ordered.find? (h : entries.Ordered) {key : String} {value : Value}
    (hvalue : SortedMap.find? key entries = some value) : value.Ordered :=
  h.values _ (mem_of_find? hvalue)

theorem Ordered.getLast? {ofHeaders : Bool} {elements : List Value} {value : Value}
    (h : (Value.array ofHeaders elements).Ordered) (hlast : elements.getLast? = some value) :
    value.Ordered := by
  cases h with
  | array _ helements => exact helements value (List.mem_of_getLast? hlast)

/-- The last element of an array gives way to a table. -/
theorem Ordered.setLast (h : entries.Ordered) {ofHeaders : Bool} {elements : List Value} (form : TableForm)
    (helements : (Value.array ofHeaders elements).Ordered) :
    (Value.array ofHeaders (elements.dropLast ++ [.table form entries])).Ordered := by
  cases helements with
  | array _ helements =>
      refine .array _ fun value hvalue => ?_
      rcases List.mem_append.1 hvalue with hold | hnew
      · exact helements value (List.dropLast_subset _ hold)
      · rw [List.mem_singleton.1 hnew]
        exact h.table form

theorem Ordered.alter (h : entries.Ordered) (key : String) {f : Option Value → Except Fault Value}
    (hf : ∀ old, (∀ value ∈ old, value.Ordered) → Yields Value.Ordered (f old)) :
    Yields Ordered (entries.alter key f) := by
  refine (hf _ fun value hvalue => h.find? hvalue).map fun value hvalue => ?_
  refine ⟨h.keys.put key value, fun entry hentry => ?_⟩
  rcases mem_put hentry with rfl | hentry
  · exact hvalue
  · exact h.values entry hentry

theorem Ordered.descend (h : entries.Ordered) (byDots : Bool)
    {f : TableForm → Entries → Except Fault Entries}
    (hf : ∀ form entries, Ordered entries → Yields Ordered (f form entries)) (path : List String)
    (form : TableForm) : Yields Ordered (entries.descend byDots f path form) := by
  induction path generalizing form entries with
  | nil => exact hf form entries h
  | cons key path ih =>
      rw [Entries.descend]
      refine h.alter key fun old hold => ?_
      split
      · exact (ih .nil _).map fun _ hinner => hinner.table _
      · rename_i inner
        have hinner := Ordered.of_table (hold _ rfl)
        split
        · exact .error _
        · split
          · exact .error _
          · exact (ih hinner _).map fun _ hinner => hinner.table _
      · rename_i elements
        have helements := hold _ rfl
        split
        · rename_i inner hlast
          exact (ih (.of_table (Ordered.getLast? helements hlast)) _).map fun _ hinner =>
            hinner.setLast _ helements
        · exact .error _
      · exact .error _

/-- A key that has a value already is refused. -/
theorem Ordered.insertDotted (h : entries.Ordered) {value : Value} (hvalue : value.Ordered)
    (path : List String) (key : String) (form : TableForm) :
    Yields Ordered (entries.insertDotted path key value form) := by
  refine h.descend true (fun form inner hinner => ?_) path form
  split
  · exact .error _
  · refine hinner.alter key fun old _ => ?_
    split
    · exact .ok hvalue
    · exact .error _

theorem Ordered.insertAt (h : entries.Ordered) {value : Value} (hvalue : value.Ordered)
    (header path : List String) (key : String) : Yields Ordered (entries.insertAt header path key value) :=
  h.descend false (fun form _ hinner => hinner.insertDotted hvalue path key form) header .header

theorem Ordered.openTable (h : entries.Ordered) (parents : List String) (key : String) :
    Yields Ordered (entries.openTable parents key) := by
  refine h.descend false (fun _ inner hinner => hinner.alter key fun old hold => ?_) parents .header
  split
  · exact .ok (Ordered.nil.table _)
  · exact .ok ((Ordered.of_table (hold _ rfl)).table _)
  · exact .error _

theorem Ordered.openArrayTable (h : entries.Ordered) (parents : List String) (key : String) :
    Yields Ordered (entries.openArrayTable parents key) := by
  refine h.descend false (fun _ inner hinner => hinner.alter key fun old hold => ?_) parents .header
  split
  · refine .ok (.array _ fun value hvalue => ?_)
    rw [List.mem_singleton.1 hvalue]
    exact Ordered.nil.table _
  · cases hold _ rfl with
    | array _ helements =>
        refine .ok (.array _ fun value hvalue => ?_)
        rcases List.mem_append.1 hvalue with hold | hnew
        · exact helements value hold
        · rw [List.mem_singleton.1 hnew]
          exact Ordered.nil.table _
  · exact .error _

end Entries

/-! ## Reading -/

theorem integerOf_ordered (negative : Bool) (n : Nat) : Yields Value.Ordered (integerOf negative n) := by
  unfold integerOf
  split
  · split
    · exact .ok (.integer _)
    · exact .error _
  · split
    · exact .ok (.integer _)
    · exact .error _

theorem readBased_ordered (base : Nat) (rest : Text) :
    Yields (fun read => read.1.Ordered) (readBased base rest) := by
  refine (Yields.any (readDigits _ rest)).bind fun digits _ => ?_
  exact (integerOf_ordered false _).bind fun value hvalue => .ok hvalue

theorem readNumber_ordered (text : Text) : Yields (fun read => read.1.Ordered) (readNumber text) := by
  unfold readNumber
  obtain ⟨negative, rest⟩ := takeSign text
  dsimp only
  split
  · exact readBased_ordered _ _
  · exact readBased_ordered _ _
  · exact readBased_ordered _ _
  · exact .ok (.float _)
  · exact .ok (.float _)
  · refine (Yields.any _).bind fun whole _ => ?_
    split
    · refine (Yields.any _).bind fun fraction _ => ?_
      refine (Yields.any _).bind fun exponent _ => ?_
      split
      · exact .ok (.float _)
      · exact .error _
    · refine (Yields.any _).bind fun exponent _ => ?_
      split
      · exact .ok (.float _)
      · exact .error _
    · refine (Yields.any _).bind fun exponent _ => ?_
      split
      · exact .ok (.float _)
      · exact .error _
    · exact (integerOf_ordered _ _).bind fun value hvalue => .ok hvalue

theorem readDateOrNumber_ordered (text : Text) :
    Yields (fun read => read.1.Ordered) (readDateOrNumber text) := by
  unfold readDateOrNumber
  extract_lets asDate
  have hdate : ∀ after, Yields (fun read => read.1.Ordered) (asDate after) := fun after =>
    (Yields.any after).map fun _ _ => .date _
  split
  · split
    · exact hdate _
    · exact readNumber_ordered _
  · split
    · exact hdate _
    · exact readNumber_ordered _
  · exact readNumber_ordered _

/-- What is read with a given amount of fuel is in order. -/
structure Reads (fuel : Nat) : Prop where
  value : ∀ depth rest, Yields (fun read => read.1.Ordered) (readValue fuel depth rest)
  elements : ∀ depth elements rest, (∀ value ∈ elements, value.Ordered) →
    Yields (fun read => read.1.Ordered) (readElements fuel depth elements rest)
  pairs : ∀ depth entries rest, Entries.Ordered entries →
    Yields (fun read => read.1.Ordered) (readPairs fuel depth entries rest)

theorem array_ordered {elements : List Value} (h : ∀ value ∈ elements, value.Ordered) :
    (Value.array false elements.reverse).Ordered :=
  .array false fun value hvalue => h value (List.mem_reverse.1 hvalue)

theorem readValue_ordered {fuel : Nat} (h : Reads fuel) (depth : Nat) (rest : Text) :
    Yields (fun read => read.1.Ordered) (readValue (fuel + 1) depth rest) := by
  unfold readValue
  split
  · exact (Yields.any _).map fun _ _ => .string _
  · exact (Yields.any _).map fun _ _ => .string _
  · split
    · exact .error _
    · exact h.elements _ _ _ (List.forall_mem_nil _)
  · split
    · exact .error _
    · split
      · exact .ok (Entries.Ordered.nil.table _)
      · exact h.pairs _ _ _ .nil
  · exact (Yields.any _).map fun _ _ => .boolean _
  · exact (Yields.any _).map fun _ _ => .boolean _
  · exact readDateOrNumber_ordered _

theorem readElements_ordered {fuel : Nat} (h : Reads fuel) (depth : Nat) {elements : List Value}
    (rest : Text) (helements : ∀ value ∈ elements, value.Ordered) :
    Yields (fun read => read.1.Ordered) (readElements (fuel + 1) depth elements rest) := by
  unfold readElements
  split
  · exact .ok (array_ordered helements)
  · refine (h.value depth _).bind fun read hread => ?_
    have hmore : ∀ value ∈ read.1 :: elements, value.Ordered := List.forall_mem_cons.2 ⟨hread, helements⟩
    dsimp only
    split
    · exact h.elements _ _ _ hmore
    · exact .ok (array_ordered hmore)
    · exact .error _

theorem readPairs_ordered {fuel : Nat} (h : Reads fuel) (depth : Nat) {entries : Entries} (rest : Text)
    (hentries : entries.Ordered) :
    Yields (fun read => read.1.Ordered) (readPairs (fuel + 1) depth entries rest) := by
  rw [readPairs]
  refine (Yields.any _).bind fun key _ => ?_
  refine (Yields.any _).bind fun rest _ => ?_
  refine (h.value depth _).bind fun read hread => ?_
  refine (hentries.insertDotted hread _ _ _).bind fun more hmore => ?_
  split
  · exact h.pairs _ _ _ hmore
  · exact .ok (hmore.table _)
  · exact .error _

theorem reads (fuel : Nat) : Reads fuel := by
  induction fuel with
  | zero => exact ⟨fun _ _ => .error _, fun _ _ _ _ => .error _, fun _ _ _ _ => .error _⟩
  | succ fuel ih =>
      exact ⟨readValue_ordered ih, fun depth _ rest => readElements_ordered ih depth rest,
        fun depth _ rest => readPairs_ordered ih depth rest⟩

theorem readLines_ordered (fuel : Nat) (header : List String) {entries : Entries} (rest : Text)
    (h : entries.Ordered) : Yields Entries.Ordered (readLines fuel header entries rest) := by
  induction fuel generalizing header entries rest with
  | zero => exact .error _
  | succ fuel ih =>
      rw [readLines]
      split
      · exact .ok h
      · refine (Yields.any _).bind fun path _ => ?_
        exact (h.openArrayTable _ _).bind fun _ hentries => ih _ _ hentries
      · refine (Yields.any _).bind fun path _ => ?_
        exact (h.openTable _ _).bind fun _ hentries => ih _ _ hentries
      · split
        · exact (Yields.any _).bind fun _ _ => ih _ _ h
        · refine (Yields.any _).bind fun key _ => ?_
          refine (Yields.any _).bind fun rest _ => ?_
          refine ((reads _).value _ _).bind fun read hread => ?_
          refine (Yields.any _).bind fun rest _ => ?_
          exact (h.insertAt hread _ _ _).bind fun _ hentries => ih _ _ hentries

/-- The tables of every document that can be read are in order. -/
theorem ordered_of_parse {text : Text} {table : Entries} (h : parse text = .ok table) : table.Ordered :=
  readLines_ordered _ _ _ .nil table h

end Highlighter.Toml
