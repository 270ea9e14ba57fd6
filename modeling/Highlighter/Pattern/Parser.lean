import Highlighter.Pattern.Basic

/-!
Reading a pattern from its written form: literals, classes, groups, choices, repetitions, anchors
and the flags `i`, `m`, `s` and `U`. One character after the other is read into the innermost open
group; a stack holds the groups around it.

This is a fragment of the syntax. The flags `x` and `R`, the flag `u` switched off, and classes of
Unicode properties, as in `\pL` and `\p{Greek}`, are refused as if they were written wrongly. The
size of a pattern and the depth of its groups have no limit.
-/
namespace Highlighter.Pattern

/-- What is wrong with the written form of a pattern. -/
inductive Fault
  | groupUnclosed
  | groupUnopened
  | groupNameInvalid
  | groupNameDuplicate (name : String)
  | lookAround
  | flagInvalid
  | repetitionOfNothing
  | repetitionUnclosed
  | repetitionCount
  | classUnclosed
  | classRange
  | escapeUnfinished
  | escapeUnknown
  | backreference
  | codePointInvalid
deriving DecidableEq, Repr

def Fault.message : Fault → String
  | groupUnclosed => "unclosed group"
  | groupUnopened => "unopened group"
  | groupNameInvalid => "invalid capture group name"
  | groupNameDuplicate name => "duplicate capture group name " ++ name
  | lookAround => "look-around is not supported"
  | flagInvalid => "unrecognized flag"
  | repetitionOfNothing => "repetition operator missing expression"
  | repetitionUnclosed => "unclosed counted repetition"
  | repetitionCount => "invalid repetition count range"
  | classUnclosed => "unclosed character class"
  | classRange => "invalid character class range"
  | escapeUnfinished => "incomplete escape sequence"
  | escapeUnknown => "unrecognized escape sequence"
  | backreference => "backreferences are not supported"
  | codePointInvalid => "invalid code point"

structure Flags where
  ignoreCase : Bool := false
  multiLine : Bool := false
  dotAll : Bool := false
  swapGreed : Bool := false
deriving DecidableEq, Repr

inductive Escaped
  | literal (c : Char)
  | cls (a : CharClass)
  | anchor (a : Anchor)

def hexNumber? (digits : Text) : Option Nat :=
  if digits.isEmpty then none
  else digits.foldlM (fun n c => (Text.hexDigit? c).map (n * 16 + ·)) 0

def charOf (n : Nat) : Except Fault Char :=
  if n.isValidChar then .ok (.ofNat n) else .error .codePointInvalid

/-- A character given by `width` hexadecimal digits, or by any number of them in braces. -/
def readHex (width : Nat) (rest : Text) : Except Fault (Char × Text) :=
  match rest with
  | '{' :: rest =>
    match rest.dropWhile (· != '}'), hexNumber? (rest.takeWhile (· != '}')) with
    | _ :: after, some n => (charOf n).map (·, after)
    | _ :: _, none => .error .codePointInvalid
    | [], _ => .error .escapeUnfinished
  | _ =>
    if rest.length < width then .error .escapeUnfinished
    else
      match hexNumber? (rest.take width) with
      | some n => (charOf n).map (·, rest.drop width)
      | none => .error .codePointInvalid

/-- The kinds of word boundary that are written with a name in braces. -/
def boundaryNamed? (name : String) : Option Anchor :=
  match name with
  | "start" => some .wordStart
  | "end" => some .wordEnd
  | "start-half" => some .wordStartHalf
  | "end-half" => some .wordEndHalf
  | _ => none

/-- A word boundary, after its letter. Braces that begin with a letter or a dash name a kind. -/
def readBoundary (rest : Text) : Except Fault (Escaped × Text) :=
  let isName (c : Char) : Bool := c.isAlpha || c == '-'
  match rest with
  | ['{'] => .error .escapeUnfinished
  | '{' :: c :: after =>
    if isName c then
      match (c :: after).dropWhile isName with
      | '}' :: last =>
        match boundaryNamed? (String.ofList ((c :: after).takeWhile isName)) with
        | some a => .ok (.anchor a, last)
        | none => .error .escapeUnknown
      | _ => .error .escapeUnfinished
    else .ok (.anchor .wordBoundary, rest)
  | _ => .ok (.anchor .wordBoundary, rest)

/-- What stands after a backslash. -/
def readEscape : Text → Except Fault (Escaped × Text)
  | [] => .error .escapeUnfinished
  | c :: rest =>
    match c with
    | 'x' => (readHex 2 rest).map fun (c, rest) => (.literal c, rest)
    | 'u' => (readHex 4 rest).map fun (c, rest) => (.literal c, rest)
    | 'U' => (readHex 8 rest).map fun (c, rest) => (.literal c, rest)
    | 'd' => .ok (.cls .digit, rest)
    | 'D' => .ok (.cls (.compl .digit), rest)
    | 's' => .ok (.cls .blank, rest)
    | 'S' => .ok (.cls (.compl .blank), rest)
    | 'w' => .ok (.cls .word, rest)
    | 'W' => .ok (.cls (.compl .word), rest)
    | 'a' => .ok (.literal '\x07', rest)
    | 'f' => .ok (.literal '\x0c', rest)
    | 'n' => .ok (.literal '\n', rest)
    | 'r' => .ok (.literal '\r', rest)
    | 't' => .ok (.literal '\t', rest)
    | 'v' => .ok (.literal '\x0b', rest)
    | 'A' => .ok (.anchor .textStart, rest)
    | 'z' => .ok (.anchor .textEnd, rest)
    | 'b' => readBoundary rest
    | 'B' => .ok (.anchor .notWordBoundary, rest)
    | '<' => .ok (.anchor .wordStart, rest)
    | '>' => .ok (.anchor .wordEnd, rest)
    | c =>
      if c.isDigit then .error .backreference
      else if c.val < 0x80 && !c.isAlpha then .ok (.literal c, rest)
      else .error .escapeUnknown

/-- The classes that are written with a name between colons. -/
def classNamed? (name : String) : Option CharClass :=
  let digits := CharClass.range '0' '9'
  let lower := CharClass.range 'a' 'z'
  let upper := CharClass.range 'A' 'Z'
  let letters := CharClass.union upper lower
  match name with
  | "alnum" => some (.union digits letters)
  | "alpha" => some letters
  | "ascii" => some (.range '\x00' '\x7f')
  | "blank" => some (.oneOf ['\t', ' '])
  | "cntrl" => some (.union (.range '\x00' '\x1f') (.one '\x7f'))
  | "digit" => some digits
  | "graph" => some (.range '!' '~')
  | "lower" => some lower
  | "print" => some (.range ' ' '~')
  | "punct" => some (.diff (.range '!' '~') (.union digits letters))
  | "space" => some (.oneOf ['\t', '\n', '\x0b', '\x0c', '\r', ' '])
  | "upper" => some upper
  | "word" => some (.union (.one '_') (.union digits letters))
  | "xdigit" => some (.union digits (.union (.range 'A' 'F') (.range 'a' 'f')))
  | _ => none

/-- A named class, after its opening bracket; `none` if it is none. -/
def readNamedClass? (rest : Text) : Option (CharClass × Text) :=
  match rest with
  | ':' :: rest =>
    let (negated, rest) : Bool × Text :=
      match rest with
      | '^' :: rest => (true, rest)
      | _ => (false, rest)
    match rest.dropWhile (· != ':'), classNamed? (String.ofList (rest.takeWhile (· != ':'))) with
    | ':' :: ']' :: after, some a => some (if negated then .compl a else a, after)
    | _, _ => none
  | _ => none

def unionOf (classes : List CharClass) : CharClass :=
  classes.foldr .union .empty

/-- The class closed under case, if case does not matter. -/
def foldIf (ignoreCase : Bool) (a : CharClass) : CharClass :=
  if ignoreCase then .folded a else a

/-- One member of a class: a character, or the class that an escape stands for. -/
def readMember : Text → Except Fault ((Char ⊕ CharClass) × Text)
  | [] => .error .classUnclosed
  | '\\' :: rest =>
    match readEscape rest with
    | .ok (.literal c, rest) => .ok (.inl c, rest)
    | .ok (.cls a, rest) => .ok (.inr a, rest)
    | .ok (.anchor _, _) => .error .escapeUnknown
    | .error e => .error e
  | c :: rest => .ok (.inl c, rest)

/-- One member of a class, or a range of them. A dash before a bracket or a dash makes no range. -/
def readRange (rest : Text) : Except Fault (CharClass × Text) := do
  let (lower, rest) ← readMember rest
  match rest with
  | '-' :: c :: more =>
    if c == ']' || c == '-' then return (Sum.elim .one id lower, rest)
    let (upper, rest) ← readMember (c :: more)
    match lower, upper with
    | .inl a, .inl b => if a ≤ b then return (.range a b, rest) else throw .classRange
    | _, _ => throw .classRange
  | _ => return (Sum.elim .one id lower, rest)

/-- Operators between the members of a class. -/
inductive ClassOp
  | inter
  | diff
  | symmDiff

/-- What an operator makes of two classes. -/
def ClassOp.apply : ClassOp → CharClass → CharClass → CharClass
  | inter => .inter
  | diff => .diff
  | symmDiff => .symmDiff

/-- The members that stand in front: dashes, then a closing bracket if there was no dash. -/
def readLeading (rest : Text) : List CharClass × Text :=
  match rest.takeWhile (· == '-'), rest.dropWhile (· == '-') with
  | [], ']' :: rest => ([.one ']'], rest)
  | [], rest => ([], rest)
  | _, rest => ([.one '-'], rest)

/-- The operator that stands in front, and the text after it. -/
def classOp? : Text → Option (ClassOp × Text)
  | '&' :: '&' :: rest => some (.inter, rest)
  | '-' :: '-' :: rest => some (.diff, rest)
  | '~' :: '~' :: rest => some (.symmDiff, rest)
  | _ => none

mutual

/-- A class, after its opening bracket. -/
def readClass (ignoreCase : Bool) : (fuel : Nat) → Text → Except Fault (CharClass × Text)
  | 0, _ => .error .classUnclosed
  | fuel + 1, rest => do
    let (negated, rest) : Bool × Text :=
      match rest with
      | '^' :: rest => (true, rest)
      | _ => (false, rest)
    let (members, rest) := readLeading rest
    let (a, rest) ← readMembers ignoreCase fuel id members rest
    return (if negated then .compl a else a, rest)

/-- The members of a class up to its closing bracket; `combine` joins them with what stands before
the last operator. -/
def readMembers (ignoreCase : Bool) :
    (fuel : Nat) → (combine : CharClass → CharClass) → (members : List CharClass) → Text →
      Except Fault (CharClass × Text)
  | 0, _, _, _ => .error .classUnclosed
  | fuel + 1, combine, members, rest =>
    let value := combine (foldIf ignoreCase (unionOf members))
    match classOp? rest with
    | some (op, rest) => readMembers ignoreCase fuel (op.apply value) [] rest
    | none =>
      match rest with
      | [] => .error .classUnclosed
      | ']' :: rest => .ok (value, rest)
      | '[' :: inner =>
        match readNamedClass? inner with
        | some (a, rest) => readMembers ignoreCase fuel combine (members ++ [a]) rest
        | none => do
          let (a, rest) ← readClass ignoreCase fuel inner
          readMembers ignoreCase fuel combine (members ++ [a]) rest
      | rest => do
        let (a, rest) ← readRange rest
        readMembers ignoreCase fuel combine (members ++ [a]) rest

end

/-- The first number that is too great for a count. -/
def countLimit : Nat := 0x100000000

def readCount (rest : Text) : Except Fault (Nat × Text) :=
  let rest := rest.dropWhile Text.isBlank
  let digits := rest.takeWhile Char.isDigit
  let n := digits.foldl (fun n c => n * 10 + (c.toNat - '0'.toNat)) 0
  if digits.isEmpty || countLimit ≤ n then .error .repetitionCount
  else .ok (n, (rest.dropWhile Char.isDigit).dropWhile Text.isBlank)

def readBounds (rest : Text) : Except Fault ((Nat × Option Nat) × Text) := do
  let (min, rest) ← readCount rest
  match rest with
  | '}' :: rest => return ((min, some min), rest)
  | ',' :: '}' :: rest => return ((min, none), rest)
  | ',' :: rest =>
    let (max, rest) ← readCount rest
    match rest with
    | '}' :: rest => if min ≤ max then return ((min, some max), rest) else throw .repetitionCount
    | _ => throw .repetitionUnclosed
  | _ => throw .repetitionUnclosed

def isNameStart (c : Char) : Bool :=
  c.isAlpha || c == '_' || (0x80 ≤ c.val && Text.isWord c && !Text.isDigit c)

def isNameChar (c : Char) : Bool :=
  isNameStart c || Text.isDigit c || c == '.' || c == '[' || c == ']'

def readName (rest : Text) : Except Fault (Text × Text) :=
  match rest.takeWhile isNameChar, rest.dropWhile isNameChar with
  | c :: name, '>' :: rest =>
    if isNameStart c then .ok (c :: name, rest) else .error .groupNameInvalid
  | _, _ => .error .groupNameInvalid

/-- The flags with one of them set or cleared. -/
def Flags.set? (flags : Flags) (c : Char) (value : Bool) : Option Flags :=
  match c with
  | 'i' => some { flags with ignoreCase := value }
  | 'm' => some { flags with multiLine := value }
  | 's' => some { flags with dotAll := value }
  | 'U' => some { flags with swapGreed := value }
  | 'u' => if value then some flags else none
  | _ => none

/-- Flags up to a colon or a closing parenthesis, which the answer tells apart. `seen` holds the
letters before; `value` is what the next letter is set to. -/
def readFlags (flags : Flags) (seen : List Char) (value : Bool) :
    Text → Except Fault (Flags × Bool × Text)
  | [] => .error .flagInvalid
  | c :: rest =>
    if c == ':' || c == ')' then
      if seen.head? == some '-' then .error .flagInvalid
      else if c == ')' && seen.isEmpty then .error .repetitionOfNothing
      else .ok (flags, c == ':', rest)
    else if seen.contains c then .error .flagInvalid
    else if c == '-' then readFlags flags (c :: seen) false rest
    else
      match flags.set? c value with
      | some flags => readFlags flags (c :: seen) value rest
      | none => .error .flagInvalid

/-- One item of a row; flags stand in a row as an item that cannot be repeated. -/
structure Item where
  pattern : Pattern
  repeatable : Bool := true

/-- A group that is being read: its finished alternatives and its current row, both last first,
the index it is recorded under, and the flags that hold again after it. -/
structure Frame where
  index : Option Nat
  outer : Flags
  alternatives : List Pattern := []
  row : List Item := []

def Frame.current (frame : Frame) : Pattern :=
  concat ((frame.row.reverse.filter Item.repeatable).map Item.pattern)

def Frame.close (frame : Frame) : Pattern :=
  let body := firstOf (frame.current :: frame.alternatives).reverse
  match frame.index with
  | some index => group index body
  | none => body

/-- What is known in the middle of reading: the innermost group, those around it from the inside
out, the flags, the number of groups and their names. -/
structure Progress where
  frame : Frame
  outside : List Frame := []
  flags : Flags := {}
  groups : Nat := 0
  names : List Text := []

namespace Progress

def push (s : Progress) (p : Pattern) : Progress :=
  { s with frame := { s.frame with row := ⟨p, true⟩ :: s.frame.row } }

def openGroup (s : Progress) (index : Option Nat) (flags : Flags) : Progress :=
  { s with
    frame := { index := index, outer := s.flags }
    outside := s.frame :: s.outside
    flags := flags
    groups := index.getD s.groups }

/-- The innermost group is closed and becomes an item of the one around it. -/
def closeGroup (s : Progress) : Except Fault Progress :=
  match s.outside with
  | [] => .error .groupUnopened
  | frame :: outside =>
    .ok ({ s with frame := frame, outside := outside, flags := s.frame.outer }.push s.frame.close)

def alternate (s : Progress) : Progress :=
  { s with
    frame := { s.frame with alternatives := s.frame.current :: s.frame.alternatives, row := [] } }

/-- A literal character, in either case if case does not matter. -/
def pushLiteral (s : Progress) (c : Char) : Progress :=
  s.push (char (foldIf s.flags.ignoreCase (.one c)))

/-- The last item of the row is repeated. A body of no length counts at most once, and what is
repeated no times is left out with its groups. -/
def repeatLast (s : Progress) (min : Nat) (max : Option Nat) (lazyMark : Bool) :
    Except Fault Progress :=
  match s.frame.row with
  | ⟨p, true⟩ :: row =>
    let greed := if lazyMark == s.flags.swapGreed then Greed.greedy else Greed.lazy
    let repeated := if max == some 0 then empty else rep greed min max p
    .ok { s with frame := { s.frame with row := ⟨repeated, true⟩ :: row } }
  | _ => .error .repetitionOfNothing

def openNamed (s : Progress) (rest : Text) : Except Fault (Progress × Text) := do
  let (name, rest) ← readName rest
  if s.names.contains name then throw (.groupNameDuplicate (String.ofList name))
  return ({ s with names := name :: s.names }.openGroup (some (s.groups + 1)) s.flags, rest)

/-- A group, after its opening parenthesis. -/
def readOpening (s : Progress) (rest : Text) : Except Fault (Progress × Text) :=
  match rest with
  | '?' :: '=' :: _ | '?' :: '!' :: _ | '?' :: '<' :: '=' :: _ | '?' :: '<' :: '!' :: _ =>
    .error .lookAround
  | '?' :: 'P' :: '<' :: rest | '?' :: '<' :: rest => s.openNamed rest
  | '?' :: rest => do
    let (flags, opens, rest) ← readFlags s.flags [] true rest
    if opens then return (s.openGroup none flags, rest)
    else
      let frame := { s.frame with row := ⟨empty, false⟩ :: s.frame.row }
      return ({ s with frame := frame, flags := flags }, rest)
  | rest => .ok (s.openGroup (some (s.groups + 1)) s.flags, rest)

/-- Takes the mark of a lazy repetition, if it is there. -/
def takeLazyMark (rest : Text) : Bool × Text :=
  match rest with
  | '?' :: rest => (true, rest)
  | rest => (false, rest)

/-- Reads one character and what belongs to it. -/
def step (s : Progress) (c : Char) (rest : Text) : Except Fault (Progress × Text) :=
  let repeats (min : Nat) (max : Option Nat) (rest : Text) : Except Fault (Progress × Text) :=
    let (lazyMark, rest) := takeLazyMark rest
    (s.repeatLast min max lazyMark).map (·, rest)
  match c with
  | '(' => s.readOpening rest
  | ')' => s.closeGroup.map (·, rest)
  | '|' => .ok (s.alternate, rest)
  | '*' => repeats 0 none rest
  | '+' => repeats 1 none rest
  | '?' => repeats 0 (some 1) rest
  | '{' => do
    let ((min, max), rest) ← readBounds rest
    repeats min max rest
  | '[' => do
    let (a, rest) ← readClass s.flags.ignoreCase (2 * rest.length + 2) rest
    return (s.push (char a), rest)
  | '.' => .ok (s.push (char (if s.flags.dotAll then .any else .compl (.one '\n'))), rest)
  | '^' => .ok (s.push (.anchor (if s.flags.multiLine then .lineStart else .textStart)), rest)
  | '$' => .ok (s.push (.anchor (if s.flags.multiLine then .lineEnd else .textEnd)), rest)
  | '\\' => do
    match ← readEscape rest with
    | (.literal c, rest) => return (s.pushLiteral c, rest)
    | (.cls a, rest) => return (s.push (char a), rest)
    | (.anchor a, rest) => return (s.push (.anchor a), rest)
  | c => .ok (s.pushLiteral c, rest)

/-- Reads to the end; `fuel` is at least the number of characters. -/
def readAll : (fuel : Nat) → Progress → Text → Except Fault Pattern
  | _, s, [] => if s.outside.isEmpty then .ok s.frame.close else .error .groupUnclosed
  | 0, _, _ :: _ => .error .groupUnclosed
  | fuel + 1, s, c :: rest => do
    let (s, rest) ← s.step c rest
    readAll fuel s rest

end Progress

/-- The pattern that a text writes, if it keeps to the fragment. -/
def parse (source : Text) : Except Fault Pattern :=
  Progress.readAll source.length { frame := { index := none, outer := {} } } source

end Highlighter.Pattern
