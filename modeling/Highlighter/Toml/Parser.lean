import Highlighter.Toml.Number

/-! Reading a TOML document. -/
namespace Highlighter.Toml

def readWord (word rest : Text) : Except Fault Text :=
  if word.isPrefixOf rest then .ok (rest.drop word.length) else .error (unexpected rest)

mutual

/-- A value; `depth` is how many brackets and braces it may open inside each other. -/
def readValue : (fuel depth : Nat) → Text → Except Fault (Value × Text)
  | 0, _, _ => .error .unexpectedEnd
  | fuel + 1, depth, rest =>
    match rest with
    | '"' :: _ | '\'' :: _ => (readString rest).map fun (s, rest) => (.string s, rest)
    | '[' :: rest =>
      match depth with
      | 0 => .error .nestingTooDeep
      | depth + 1 => readElements fuel depth [] (dropGap true rest.length rest)
    | '\x7b' :: rest =>
      match depth with
      | 0 => .error .nestingTooDeep
      | depth + 1 =>
        match dropBlanks rest with
        | '\x7d' :: rest => .ok (.table .inline [], rest)
        | rest => readPairs fuel depth [] rest
    | 't' :: _ => (readWord "true".toList rest).map (.boolean true, ·)
    | 'f' :: _ => (readWord "false".toList rest).map (.boolean false, ·)
    | _ => readDateOrNumber rest

/-- The elements of an array from one of them on, or its closing bracket. -/
def readElements : (fuel depth : Nat) → (read : List Value) → Text → Except Fault (Value × Text)
  | 0, _, _, _ => .error .unexpectedEnd
  | fuel + 1, depth, read, rest =>
    match rest with
    | ']' :: rest => .ok (.array false read.reverse, rest)
    | rest => do
      let (value, rest) ← readValue fuel depth rest
      match dropGap true rest.length rest with
      | ',' :: rest => readElements fuel depth (value :: read) (dropGap true rest.length rest)
      | ']' :: rest => return (.array false (value :: read).reverse, rest)
      | rest => throw (unexpected rest)

/-- The keys and values of a table in braces, from one of them on. -/
def readPairs : (fuel depth : Nat) → Entries → Text → Except Fault (Value × Text)
  | 0, _, _, _ => .error .unexpectedEnd
  | fuel + 1, depth, entries, rest => do
    let ((path, key), rest) ← readKey rest
    let rest ← readWord ['='] rest
    let (value, rest) ← readValue fuel depth (dropBlanks rest)
    let entries ← entries.insertDotted path key value .inline
    match dropBlanks rest with
    | ',' :: rest => readPairs fuel depth entries rest
    | '\x7d' :: rest => return (.table .inline entries, rest)
    | rest => throw (unexpected rest)

end

/-- A header, after its opening brackets: the path of the table and the text after its line. -/
def readHeader (closing rest : Text) : Except Fault ((List String × String) × Text) := do
  let (path, rest) ← readKey rest
  let rest ← readWord closing rest
  let rest ← endLine rest
  return (path, rest)

/-- The lines of a document from one of them on; `header` is the path of the table that the last
header opened. -/
def readLines : (fuel : Nat) → (header : List String) → Entries → Text → Except Fault Entries
  | 0, _, _, _ => .error .unexpectedEnd
  | fuel + 1, header, entries, rest =>
    match dropBlanks rest with
    | [] => .ok entries
    | '[' :: '[' :: rest => do
      let ((parents, key), rest) ← readHeader [']', ']'] rest
      let entries ← entries.openArrayTable parents key
      readLines fuel (parents ++ [key]) entries rest
    | '[' :: rest => do
      let ((parents, key), rest) ← readHeader [']'] rest
      let entries ← entries.openTable parents key
      readLines fuel (parents ++ [key]) entries rest
    | c :: rest =>
      if c = '#' ∨ c = '\n' ∨ c = '\r' then do
        let rest ← endLine (c :: rest)
        readLines fuel header entries rest
      else do
        let ((path, key), rest) ← readKey (c :: rest)
        let rest ← readWord ['='] rest
        let (value, rest) ← readValue (2 * rest.length + 2) (nestingLimit - 1) (dropBlanks rest)
        let rest ← endLine rest
        let entries ← entries.insertAt header path key value
        readLines fuel header entries rest

/-- The keys and values of a document. A byte order mark in front of it counts for nothing. -/
def parse (text : Text) : Except Fault Entries :=
  let text :=
    match text with
    | '\uFEFF' :: rest => rest
    | rest => rest
  readLines (text.length + 1) [] [] text

end Highlighter.Toml
