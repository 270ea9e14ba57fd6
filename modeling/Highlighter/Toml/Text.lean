import Highlighter.Text.Character
import Highlighter.Toml.Value

/-! The characters of TOML: blanks, line ends, comments, strings and keys. -/
namespace Highlighter.Toml

def isBlank (c : Char) : Bool := c == ' ' || c == '\t'

/-- A character that may stand in a comment or, but for its delimiters, in a string. -/
def isPrintable (c : Char) : Bool := c == '\t' || (0x20 ≤ c.val && c.val != 0x7f)

/-- A character of a key without quotes. -/
def isBare (c : Char) : Bool := c.isAlphanum || c == '_' || c == '-'

def unexpected : Text → Fault
  | [] => .unexpectedEnd
  | c :: _ => .unexpectedCharacter c

def dropBlanks (rest : Text) : Text := rest.dropWhile isBlank

def dropComment (rest : Text) : Text :=
  match rest with
  | '#' :: rest => rest.dropWhile isPrintable
  | rest => rest

def newline? : Text → Option Text
  | '\n' :: rest => some rest
  | '\r' :: '\n' :: rest => some rest
  | _ => none

/-- The text after the rest of a line, which holds blanks and a comment at most. -/
def endLine (rest : Text) : Except Fault Text :=
  match dropComment (dropBlanks rest) with
  | [] => .ok []
  | rest =>
    match newline? rest with
    | some rest => .ok rest
    | none => .error (unexpected rest)

/-- The text after blanks and line ends, and after comments, if they may stand there; `fuel` is at
least the number of characters. -/
def dropGap (comments : Bool) : (fuel : Nat) → Text → Text
  | 0, rest => rest
  | fuel + 1, rest =>
    match rest with
    | [] => []
    | c :: more =>
      if isBlank c then dropGap comments fuel more
      else if comments && c == '#' then dropGap comments fuel (dropComment rest)
      else
        match newline? rest with
        | some rest => dropGap comments fuel rest
        | none => rest

/-- The character whose number is given by the first `width` hexadecimal digits. -/
def readCodePoint (width : Nat) (rest : Text) : Except Fault (Char × Text) :=
  let digits := rest.take width
  match digits.foldlM (fun n c => (Text.hexDigit? c).map (n * 16 + ·)) 0 with
  | some n =>
    if digits.length = width ∧ n.isValidChar then .ok (.ofNat n, rest.drop width)
    else .error .invalidEscape
  | none => .error .invalidEscape

/-- The character that stands after a backslash. -/
def readEscape : Text → Except Fault (Char × Text)
  | 'b' :: rest => .ok ('\x08', rest)
  | 't' :: rest => .ok ('\t', rest)
  | 'n' :: rest => .ok ('\n', rest)
  | 'f' :: rest => .ok ('\x0c', rest)
  | 'r' :: rest => .ok ('\r', rest)
  | '"' :: rest => .ok ('"', rest)
  | '\\' :: rest => .ok ('\\', rest)
  | 'u' :: rest => readCodePoint 4 rest
  | 'U' :: rest => readCodePoint 8 rest
  | _ => .error .invalidEscape

/-- The rest of a string in double quotes; `read` holds what was read of it, last first. -/
def readBasic : (fuel : Nat) → (read : Text) → Text → Except Fault (String × Text)
  | 0, _, _ => .error .unexpectedEnd
  | fuel + 1, read, rest =>
    match rest with
    | '"' :: rest => .ok (String.ofList read.reverse, rest)
    | '\\' :: rest =>
      match readEscape rest with
      | .ok (c, rest) => readBasic fuel (c :: read) rest
      | .error e => .error e
    | c :: rest =>
      if isPrintable c then readBasic fuel (c :: read) rest else .error (.unexpectedCharacter c)
    | [] => .error .unexpectedEnd

/-- The rest of a string in single quotes, which knows no escapes. -/
def readLiteral (rest : Text) : Except Fault (String × Text) :=
  let isBody (c : Char) : Bool := isPrintable c && c != '\''
  match rest.dropWhile isBody with
  | '\'' :: after => .ok (String.ofList (rest.takeWhile isBody), after)
  | after => .error (unexpected after)

/-- The text after a backslash at the end of a line: the line's end, and the blanks and line ends
after it, are left out. -/
def continueLine? (rest : Text) : Option Text :=
  (newline? (dropBlanks rest)).map fun rest => dropGap false rest.length rest

/-- The rest of a string in three quotes. Up to two quotes may stand before the closing ones, and a
line end counts as `\n`. -/
def readMultiline (quote : Char) : (fuel : Nat) → (read : Text) → Text → Except Fault (String × Text)
  | 0, _, _ => .error .unexpectedEnd
  | fuel + 1, read, rest =>
    match rest with
    | [] => .error .unexpectedEnd
    | c :: more =>
      if c = quote then
        let quotes := (rest.takeWhile (· == quote)).take 5
        let after := rest.drop quotes.length
        if 3 ≤ quotes.length then
          .ok (String.ofList (read.reverse ++ quotes.drop 3), after)
        else readMultiline quote fuel (quotes ++ read) after
      else if c = '\\' ∧ quote = '"' then
        match continueLine? more with
        | some rest => readMultiline quote fuel read rest
        | none =>
          match readEscape more with
          | .ok (c, rest) => readMultiline quote fuel (c :: read) rest
          | .error e => .error e
      else if isPrintable c then readMultiline quote fuel (c :: read) more
      else
        match newline? rest with
        | some rest => readMultiline quote fuel ('\n' :: read) rest
        | none => .error (.unexpectedCharacter c)

/-- A string of any kind. A line end right after three opening quotes is left out. -/
def readString (rest : Text) : Except Fault (String × Text) :=
  match rest with
  | '"' :: '"' :: '"' :: rest =>
    readMultiline '"' (rest.length + 1) [] ((newline? rest).getD rest)
  | '\'' :: '\'' :: '\'' :: rest =>
    readMultiline '\'' (rest.length + 1) [] ((newline? rest).getD rest)
  | '"' :: rest => readBasic (rest.length + 1) [] rest
  | '\'' :: rest => readLiteral rest
  | rest => .error (unexpected rest)

/-- One part of a key: bare, or a string of one line. -/
def readKeyPart (rest : Text) : Except Fault (String × Text) :=
  match rest with
  | '"' :: rest => readBasic (rest.length + 1) [] rest
  | '\'' :: rest => readLiteral rest
  | rest =>
    match rest.takeWhile isBare with
    | [] => .error (unexpected rest)
    | part => .ok (String.ofList part, rest.dropWhile isBare)

/-- How deep values and keys may be nested. -/
def nestingLimit : Nat := 80

/-- A key: its parts but the last one, the last one, and the text after it and its blanks. -/
def readKeyFrom : (fuel : Nat) → (path : List String) → Text →
    Except Fault ((List String × String) × Text)
  | 0, _, _ => .error .nestingTooDeep
  | fuel + 1, path, rest => do
    let (part, rest) ← readKeyPart (dropBlanks rest)
    match dropBlanks rest with
    | '.' :: rest => readKeyFrom fuel (path ++ [part]) rest
    | rest => return ((path, part), rest)

/-- A key, with dots between its parts. -/
def readKey (rest : Text) : Except Fault ((List String × String) × Text) :=
  readKeyFrom (nestingLimit - 1) [] rest

end Highlighter.Toml
