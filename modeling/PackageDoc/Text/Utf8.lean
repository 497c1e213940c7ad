/-! # UTF-8

Texts as bytes and back.  Strict reading accepts exactly the bytes of some text.  Lossy reading puts
U+FFFD for each longest beginning of a character that is cut short, and for each byte that begins
none. -/
set_option autoImplicit false

namespace PackageDoc.Text

abbrev Bytes := List UInt8

/-! ## Writing -/

def encodeChar (c : Char) : Bytes :=
  let code := c.toNat
  if code < 0x80 then [UInt8.ofNat code]
  else if code < 0x800 then [UInt8.ofNat (0xC0 + code / 0x40), UInt8.ofNat (0x80 + code % 0x40)]
  else if code < 0x10000 then
    [UInt8.ofNat (0xE0 + code / 0x1000), UInt8.ofNat (0x80 + code / 0x40 % 0x40),
      UInt8.ofNat (0x80 + code % 0x40)]
  else
    [UInt8.ofNat (0xF0 + code / 0x40000), UInt8.ofNat (0x80 + code / 0x1000 % 0x40),
      UInt8.ofNat (0x80 + code / 0x40 % 0x40), UInt8.ofNat (0x80 + code % 0x40)]

def encode (text : List Char) : Bytes := text.flatMap encodeChar

/-- The bytes of a string. -/
def bytes (text : String) : Bytes := encode text.toList

/-! ## Reading -/

/-- The number of bytes of a character with a given first byte; zero if there is none. -/
def charLength (first : Nat) : Nat :=
  if first < 0x80 then 1
  else if first < 0xC2 then 0
  else if first < 0xE0 then 2
  else if first < 0xF0 then 3
  else if first < 0xF5 then 4
  else 0

def isTail (byte : Nat) : Bool := 0x80 ≤ byte && byte < 0xC0

/-- Whether a byte may stand second.  The narrower bounds keep out what has a shorter form, the
surrogates, and what lies beyond the last character. -/
def isSecond (first second : Nat) : Bool :=
  if first = 0xE0 then 0xA0 ≤ second && second < 0xC0
  else if first = 0xED then 0x80 ≤ second && second < 0xA0
  else if first = 0xF0 then 0x90 ≤ second && second < 0xC0
  else if first = 0xF4 then 0x80 ≤ second && second < 0x90
  else isTail second

/-- The number of leading bytes that stand as they do in some character. -/
def soundLength : Bytes → Nat
  | [] => 0
  | first :: rest =>
    let length := charLength first.toNat
    if length ≤ 1 then length
    else
      match rest with
      | [] => 1
      | second :: rest =>
        if isSecond first.toNat second.toNat then
          2 + ((rest.take (length - 2)).takeWhile fun byte => isTail byte.toNat).length
        else 1

/-- The code point that the bytes of one character stand for. -/
def codeOf : Bytes → Nat
  | [a] => a.toNat
  | [a, b] => (a.toNat - 0xC0) * 0x40 + (b.toNat - 0x80)
  | [a, b, c] => (a.toNat - 0xE0) * 0x1000 + (b.toNat - 0x80) * 0x40 + (c.toNat - 0x80)
  | [a, b, c, d] =>
    (a.toNat - 0xF0) * 0x40000 + (b.toNat - 0x80) * 0x1000 + (c.toNat - 0x80) * 0x40 +
      (d.toNat - 0x80)
  | _ => 0

/-- The first character and the bytes behind it. -/
def decodeChar? (source : Bytes) : Option (Char × Bytes) :=
  match source with
  | [] => none
  | first :: _ =>
    let length := charLength first.toNat
    if 0 < length ∧ soundLength source = length then
      some (Char.ofNat (codeOf (source.take length)), source.drop length)
    else none

/-- Reads at most `fuel` characters, strictly. -/
def decodeWithin : Nat → Bytes → Option (List Char)
  | _, [] => some []
  | 0, _ :: _ => none
  | fuel + 1, source => do
    let (c, rest) ← decodeChar? source
    return c :: (← decodeWithin fuel rest)

/-- The text of the bytes, if they are the bytes of a text. -/
def decode? (source : Bytes) : Option (List Char) := decodeWithin source.length source

def lossyWithin : Nat → Bytes → List Char
  | _, [] => []
  | 0, _ :: _ => []
  | fuel + 1, source =>
    match decodeChar? source with
    | some (c, rest) => c :: lossyWithin fuel rest
    | none => '\uFFFD' :: lossyWithin fuel (source.drop (max 1 (soundLength source)))

def decodeLossy (source : Bytes) : List Char := lossyWithin source.length source

def string? (source : Bytes) : Option String := (decode? source).map String.ofList

def lossyString (source : Bytes) : String := String.ofList (decodeLossy source)

end PackageDoc.Text
