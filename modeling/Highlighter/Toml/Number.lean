import Highlighter.Toml.Text

/-! Numbers and dates of TOML. -/
namespace Highlighter.Toml

/-- Digits with single underscores between them, from one digit on: the digits, and the text after
them. -/
def readDigits (isDigit : Char → Bool) : Text → Except Fault (Text × Text)
  | [] => .error .unexpectedEnd
  | [c] => if isDigit c then .ok ([c], []) else .error (.unexpectedCharacter c)
  | c :: d :: rest =>
    if !isDigit c then .error (.unexpectedCharacter c)
    else if d = '_' then (readDigits isDigit rest).map fun (digits, rest) => (c :: digits, rest)
    else if isDigit d then
      (readDigits isDigit (d :: rest)).map fun (digits, rest) => (c :: digits, rest)
    else .ok ([c], d :: rest)

def natOf (base : Nat) (digits : Text) : Nat :=
  digits.foldl (fun n c => n * base + (Text.hexDigit? c).getD 0) 0

/-- The first whole number that is too great for 64 bits with a sign. -/
def integerLimit : Nat := 0x8000000000000000

def integerOf (negative : Bool) (n : Nat) : Except Fault Value :=
  if negative then
    if n ≤ integerLimit then .ok (.integer (-(n : Int))) else .error .numberTooLarge
  else if n < integerLimit then .ok (.integer n)
  else .error .numberTooLarge

/-- A whole number in another base, after the letter that names it. -/
def readBased (base : Nat) (rest : Text) : Except Fault (Value × Text) := do
  let isDigit (c : Char) : Bool :=
    match Text.hexDigit? c with
    | some d => d < base
    | none => false
  let (digits, rest) ← readDigits isDigit rest
  let value ← integerOf false (natOf base digits)
  return (value, rest)

/-- The digits of a decimal number: a zero, or digits of which the first is none. -/
def readDecimal (rest : Text) : Except Fault (Text × Text) :=
  match rest with
  | '0' :: rest => .ok (['0'], rest)
  | rest => readDigits Char.isDigit rest

/-- The least number that rounds to infinity in 64 bits. -/
def floatLimit : Nat := Nat.pow 2 1024 - Nat.pow 2 970

/-- The number `digits` times ten to the power of `exponent` rounds to a finite one of 64 bits. -/
def isFinite (digits : Text) (exponent : Int) : Bool :=
  let digits := digits.dropWhile (· == '0')
  let magnitude := digits.length + exponent
  if digits.isEmpty || magnitude ≤ 308 then true
  else if 310 ≤ magnitude then false
  else if 0 ≤ exponent then natOf 10 digits * Nat.pow 10 exponent.toNat < floatLimit
  else natOf 10 digits < floatLimit * Nat.pow 10 (-exponent).toNat

/-- A sign, if there is one: whether it is a minus, and the text after it. -/
def takeSign (rest : Text) : Bool × Text :=
  match rest with
  | '-' :: rest => (true, rest)
  | '+' :: rest => (false, rest)
  | rest => (false, rest)

def readExponent (rest : Text) : Except Fault (Int × Text) :=
  let afterMark (rest : Text) : Except Fault (Int × Text) := do
    let (negative, rest) := takeSign rest
    let (digits, rest) ← readDigits Char.isDigit rest
    let n := natOf 10 digits
    return (if negative then -(n : Int) else n, rest)
  match rest with
  | 'e' :: rest | 'E' :: rest => afterMark rest
  | rest => .ok (0, rest)

/-- The part of a text that was read to get to its rest. -/
def written (text rest : Text) : String :=
  String.ofList (text.take (text.length - rest.length))

/-- A decimal number, whole or not, or one of the special ones. Only a negative one may be too large
for 64 bits. -/
def readNumber (text : Text) : Except Fault (Value × Text) := do
  let (negative, rest) := takeSign text
  match text, rest with
  | '0' :: 'x' :: rest, _ => readBased 16 rest
  | '0' :: 'o' :: rest, _ => readBased 8 rest
  | '0' :: 'b' :: rest, _ => readBased 2 rest
  | _, 'i' :: 'n' :: 'f' :: rest | _, 'n' :: 'a' :: 'n' :: rest =>
    return (.float (written text rest), rest)
  | _, rest =>
    let (whole, rest) ← readDecimal rest
    match rest with
    | '.' :: more =>
      let (fraction, rest) ← readDigits Char.isDigit more
      let (exponent, rest) ← readExponent rest
      if negative || isFinite (whole ++ fraction) (exponent - fraction.length) then
        return (.float (written text rest), rest)
      else throw .numberTooLarge
    | 'e' :: _ | 'E' :: _ =>
      let (exponent, rest) ← readExponent rest
      if negative || isFinite whole exponent then return (.float (written text rest), rest)
      else throw .numberTooLarge
    | rest =>
      let value ← integerOf negative (natOf 10 whole)
      return (value, rest)

/-- A number of two digits that is not greater than `max`. -/
def readPair (max : Nat) (rest : Text) : Except Fault (Nat × Text) :=
  match rest with
  | a :: b :: rest =>
    let n := natOf 10 [a, b]
    if a.isDigit && b.isDigit && n ≤ max then .ok (n, rest) else .error .invalidDate
  | _ => .error .invalidDate

def readMark (mark : Char) (rest : Text) : Except Fault Text :=
  match rest with
  | c :: rest => if c = mark then .ok rest else .error .invalidDate
  | [] => .error .invalidDate

def daysOf (year month : Nat) : Nat :=
  if month = 2 then
    if year % 4 = 0 ∧ (year % 100 ≠ 0 ∨ year % 400 = 0) then 29 else 28
  else if month ∈ [4, 6, 9, 11] then 30
  else 31

/-- The text after a time of day. -/
def readTime (rest : Text) : Except Fault Text := do
  let (_, rest) ← readPair 23 rest
  let rest ← readMark ':' rest
  let (_, rest) ← readPair 59 rest
  let rest ← readMark ':' rest
  let (_, rest) ← readPair 60 rest
  match rest with
  | '.' :: c :: more => if c.isDigit then return more.dropWhile Char.isDigit else return rest
  | rest => return rest

/-- The text after a distance from universal time, if there is one. -/
def readOffset (rest : Text) : Except Fault Text :=
  let afterSign (rest : Text) : Except Fault Text := do
    let (_, rest) ← readPair 23 rest
    let rest ← readMark ':' rest
    let (_, rest) ← readPair 59 rest
    return rest
  match rest with
  | 'Z' :: rest | 'z' :: rest => .ok rest
  | '+' :: rest | '-' :: rest => afterSign rest
  | rest => .ok rest

def readTimeAfterDate (rest : Text) : Except Fault Text :=
  match rest with
  | mark :: a :: b :: ':' :: _ =>
    if (mark = 'T' ∨ mark = 't' ∨ mark = ' ') ∧ a.isDigit ∧ b.isDigit then
      (readTime (rest.drop 1)).bind readOffset
    else .ok rest
  | rest => .ok rest

/-- The text after a date, and after the time of day that may follow it. -/
def readDate (year : Nat) (rest : Text) : Except Fault Text := do
  let (month, rest) ← readPair 12 rest
  let rest ← readMark '-' rest
  let (day, rest) ← readPair (daysOf year month) rest
  if month = 0 ∨ day = 0 then throw .invalidDate
  readTimeAfterDate rest

/-- A date, a time of day, or a number. -/
def readDateOrNumber (text : Text) : Except Fault (Value × Text) :=
  let asDate (after : Except Fault Text) : Except Fault (Value × Text) :=
    after.map fun rest => (.date (written text rest), rest)
  match text with
  | a :: b :: c :: d :: '-' :: rest =>
    if [a, b, c, d].all Char.isDigit then asDate (readDate (natOf 10 [a, b, c, d]) rest)
    else readNumber text
  | a :: b :: ':' :: _ =>
    if a.isDigit && b.isDigit then asDate (readTime text) else readNumber text
  | _ => readNumber text

end Highlighter.Toml
