import PackageDoc.Toml.Value

/-! # Scalars

Values that are one word: truth values, numbers and dates. -/
set_option autoImplicit false

namespace PackageDoc.Toml

/-! ## Numbers -/

def isHexDigit (c : Char) : Bool :=
  c.isDigit || ('a' ≤ c && c ≤ 'f') || ('A' ≤ c && c ≤ 'F')

def digitValue (c : Char) : Nat :=
  if c.isDigit then c.toNat - '0'.toNat
  else if 'a' ≤ c then c.toNat - 'a'.toNat + 10
  else c.toNat - 'A'.toNat + 10

def numberValue (base : Nat) (digits : List Char) : Nat :=
  digits.foldl (fun value digit => value * base + digitValue digit) 0

/-- The digits of a word of digits in which single underscores may stand between two of them. -/
def digits? (isDigit : Char → Bool) : List Char → Option (List Char)
  | [] => none
  | [c] => if isDigit c then some [c] else none
  | c :: '_' :: rest =>
    if isDigit c then (digits? isDigit rest).map (c :: ·) else none
  | c :: rest => if isDigit c then (digits? isDigit rest).map (c :: ·) else none

/-- Decimal digits without a leading zero. -/
def plainDigits? (word : List Char) : Option (List Char) := do
  let digits ← digits? Char.isDigit word
  guard (digits.length = 1 || digits.head? != some '0')
  return digits

/-- A sign and what stands behind it. -/
def splitSign : List Char → Bool × List Char
  | '+' :: rest => (false, rest)
  | '-' :: rest => (true, rest)
  | word => (false, word)

def integer? (word : List Char) : Option Int :=
  match word with
  | '0' :: 'x' :: rest => (digits? isHexDigit rest).map fun digits => (numberValue 16 digits : Int)
  | '0' :: 'o' :: rest =>
    (digits? (fun c => '0' ≤ c && c ≤ '7') rest).map fun digits => (numberValue 8 digits : Int)
  | '0' :: 'b' :: rest =>
    (digits? (fun c => c = '0' || c = '1') rest).map fun digits => (numberValue 2 digits : Int)
  | word =>
    let (negative, word) := splitSign word
    (plainDigits? word).map fun digits =>
      if negative then -(numberValue 10 digits : Int) else numberValue 10 digits

/-- Whether an integer fits into 128 bits, signed or unsigned. -/
def integerFits (value : Int) : Bool := -(Int.pow 2 127) ≤ value && value < Int.pow 2 128

/-- The text before and behind the first character of a kind, which is dropped. -/
def splitAtKind (kind : Char → Bool) : List Char → List Char × Option (List Char)
  | [] => ([], none)
  | c :: rest =>
    if kind c then ([], some rest)
    else
      let (before, behind) := splitAtKind kind rest
      (c :: before, behind)

/-- Whether a decimal number is rounded beyond the largest finite one of 64 bits. -/
def floatOverflows (digits : List Char) (exponent : Int) : Bool :=
  let significant := digits.dropWhile (· = '0')
  let magnitude := (significant.length : Int) + exponent
  if significant.isEmpty || magnitude < 300 then false
  else if 320 < magnitude then true
  else
    let value := numberValue 10 significant
    let limit := Nat.pow 2 1024 - Nat.pow 2 970
    if 0 ≤ exponent then limit ≤ value * Nat.pow 10 exponent.toNat
    else limit * Nat.pow 10 (-exponent).toNat ≤ value

/-- A floating-point number; the result tells whether it overflows. -/
def float? (word : List Char) : Option Bool :=
  let (_, word) := splitSign word
  if word = ['i', 'n', 'f'] ∨ word = ['n', 'a', 'n'] then some false
  else do
    let (mantissa, exponent) := splitAtKind (fun c => c = 'e' || c = 'E') word
    let (whole, fraction) := splitAtKind (· = '.') mantissa
    guard (exponent.isSome || fraction.isSome)
    let whole ← plainDigits? whole
    let fraction ← match fraction with
      | none => some []
      | some word => digits? Char.isDigit word
    let exponent ← match exponent with
      | none => some 0
      | some word => do
        let (negative, word) := splitSign word
        let digits ← digits? Char.isDigit word
        some (if negative then -(numberValue 10 digits : Int) else numberValue 10 digits)
    return floatOverflows (whole ++ fraction) (exponent - fraction.length)

/-! ## Dates and times -/

def twoDigits? : List Char → Option (Nat × List Char)
  | a :: b :: rest =>
    if a.isDigit && b.isDigit then some (numberValue 10 [a, b], rest) else none
  | _ => none

def isLeapYear (year : Nat) : Bool := year % 4 = 0 && (year % 100 != 0 || year % 400 = 0)

def daysInMonth (year month : Nat) : Nat :=
  if month = 2 then (if isLeapYear year then 29 else 28)
  else if month = 4 ∨ month = 6 ∨ month = 9 ∨ month = 11 then 30
  else 31

/-- A date in front of a word, and what stands behind it. -/
def readDate? (word : List Char) : Option (List Char) := do
  let (century, rest) ← twoDigits? word
  let (year, rest) ← twoDigits? rest
  let '-' :: rest := rest | none
  let (month, rest) ← twoDigits? rest
  let '-' :: rest := rest | none
  let (day, rest) ← twoDigits? rest
  guard (1 ≤ month && month ≤ 12)
  guard (1 ≤ day && day ≤ daysInMonth (century * 100 + year) month)
  return rest

/-- A time in front of a word.  Seconds may be left out; only seconds have a fraction. -/
def readTime? (word : List Char) : Option (List Char) := do
  let (hour, rest) ← twoDigits? word
  let ':' :: rest := rest | none
  let (minute, rest) ← twoDigits? rest
  guard (hour ≤ 23 && minute ≤ 59)
  match rest with
  | ':' :: rest =>
    let (second, rest) ← twoDigits? rest
    guard (second ≤ 60)
    match rest with
    | '.' :: c :: rest => if c.isDigit then return rest.dropWhile Char.isDigit else none
    | '.' :: _ => none
    | rest => return rest
  | rest => return rest

/-- What may follow a date with its time: nothing, or the offset from universal time. -/
def isOffset (word : List Char) : Bool :=
  match word with
  | [] | ['Z'] | ['z'] => true
  | sign :: rest =>
    (sign = '+' || sign = '-') &&
      match twoDigits? rest with
      | some (hours, ':' :: rest) =>
        match twoDigits? rest with
        | some (minutes, []) => hours ≤ 23 && minutes ≤ 59
        | _ => false
      | _ => false

def isDateTime (word : List Char) : Bool :=
  match readDate? word with
  | some [] => true
  | some (separator :: rest) =>
    (separator = 'T' || separator = 't' || separator = ' ') && (readTime? rest).any isOffset
  | none => readTime? word = some []

/-- Whether a word begins as a date or a time does: digits, then a hyphen or a colon. -/
def looksLikeDate (word : List Char) : Bool :=
  match word with
  | c :: rest =>
    c.isDigit && (rest.dropWhile Char.isDigit).head?.any fun c => c = '-' || c = ':'
  | [] => false

/-! ## Words -/

def scalar? (word : List Char) : Except Fault Value :=
  if word = ['t', 'r', 'u', 'e'] then .ok (.boolean true)
  else if word = ['f', 'a', 'l', 's', 'e'] then .ok (.boolean false)
  else if looksLikeDate word then
    if isDateTime word then .ok .dateTime else .error .dateTime
  else
    match integer? word with
    | some value => .ok (.integer value)
    | none =>
      match float? word with
      | some overflow => .ok (.float overflow)
      | none => .error .number

end PackageDoc.Toml
