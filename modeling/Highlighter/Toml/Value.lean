import Highlighter.SortedMap

/-! TOML values, and the tables that headers and keys build up. -/
namespace Highlighter.Toml

inductive Fault
  | unexpectedEnd
  | unexpectedCharacter (c : Char)
  | invalidEscape
  | numberTooLarge
  | invalidDate
  | duplicateKey (key : String)
  | notATable (key : String)
  | nestingTooDeep
deriving DecidableEq, Repr

def Fault.message : Fault → String
  | unexpectedEnd => "unexpected end of input"
  | unexpectedCharacter c => "unexpected character '" ++ String.ofList [c] ++ "'"
  | invalidEscape => "invalid escape sequence"
  | numberTooLarge => "number too large to fit in target type"
  | invalidDate => "value is out of range"
  | duplicateKey key => "duplicate key '" ++ key ++ "'"
  | notATable key => "dotted key '" ++ key ++ "' attempted to extend a non-table type"
  | nestingTooDeep => "recursion limit exceeded"

/-- How a table was written, which decides where keys may be added to it. -/
inductive TableForm
  /-- By a header of its own, or the document itself. -/
  | header
  /-- As part of the header of a table in it. -/
  | implied
  /-- By a dotted key. -/
  | dotted
  /-- In braces. -/
  | inline
deriving DecidableEq, Repr

/-- A value. Numbers with a fraction, and dates, are kept as they were written. -/
inductive Value
  | string (s : String)
  | integer (n : Int)
  | float (written : String)
  | boolean (b : Bool)
  | date (written : String)
  /-- Elements in brackets, or the tables of a header in double brackets. -/
  | array (ofHeaders : Bool) (elements : List Value)
  /-- Keys and values in the order of the keys. -/
  | table (form : TableForm) (entries : List (String × Value))
deriving Repr

abbrev Entries := List (String × Value)

/-- Gives a key the value that `f` makes of the one it has. -/
def Entries.alter (entries : Entries) (key : String)
    (f : Option Value → Except Fault Value) : Except Fault Entries :=
  (f (SortedMap.find? key entries)).map fun value => SortedMap.put key value entries

/-- Applies `f` to the table at a path and to its form. Tables that are missing on the way are made;
of the tables of a header in double brackets, the last one is on the way. A dotted key may not pass
through a table that has a header. -/
def Entries.descend (byDots : Bool) (f : TableForm → Entries → Except Fault Entries) :
    List String → TableForm → Entries → Except Fault Entries
  | [], form, entries => f form entries
  | key :: path, _, entries =>
    entries.alter key fun
      | none =>
        let form := if byDots then TableForm.dotted else .implied
        (descend byDots f path form []).map (.table form)
      | some (.table form inner) =>
        if form = .inline then .error (.notATable key)
        else if byDots && form == .header then .error (.duplicateKey key)
        else (descend byDots f path form inner).map (.table form)
      | some (.array true elements) =>
        match elements.getLast? with
        | some (.table form inner) =>
          (descend byDots f path form inner).map fun inner =>
            .array true (elements.dropLast ++ [.table form inner])
        | _ => .error (.notATable key)
      | some _ => .error (.notATable key)

/-- Adds a value under a dotted key, whose last part is `key`. -/
def Entries.insertDotted (path : List String) (key : String) (value : Value) (form : TableForm)
    (entries : Entries) : Except Fault Entries :=
  entries.descend true (fun form entries =>
    if (form == .dotted) == path.isEmpty then .error (.duplicateKey key)
    else
      entries.alter key fun
        | none => .ok value
        | some _ => .error (.duplicateKey key)) path form

/-- Adds a value under a dotted key to the table that the last header opened. -/
def Entries.insertAt (header path : List String) (key : String) (value : Value)
    (document : Entries) : Except Fault Entries :=
  document.descend false (fun form entries => entries.insertDotted path key value form) header .header

/-- Opens a table by its header. It may have been implied before, but not written. -/
def Entries.openTable (parents : List String) (key : String) (document : Entries) :
    Except Fault Entries :=
  document.descend false (fun _ entries =>
    entries.alter key fun
      | none => .ok (.table .header [])
      | some (.table .implied inner) => .ok (.table .header inner)
      | some _ => .error (.duplicateKey key)) parents .header

/-- Opens one more table of an array by its header in double brackets. -/
def Entries.openArrayTable (parents : List String) (key : String) (document : Entries) :
    Except Fault Entries :=
  document.descend false (fun _ entries =>
    entries.alter key fun
      | none => .ok (.array true [.table .header []])
      | some (.array true elements) => .ok (.array true (elements ++ [.table .header []]))
      | some _ => .error (.duplicateKey key)) parents .header

end Highlighter.Toml
