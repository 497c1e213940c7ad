import PackageDoc.Unicode.Printable

/-! # Quoted text

A text between double quotes on one line, with everything that does not show written as an
escape. -/
set_option autoImplicit false

namespace PackageDoc.Text
open PackageDoc.Unicode

/-- The hexadecimal digits of a number, small letters, no leading zeros. -/
def hexDigits (number : Nat) : List Char := Nat.toDigits 16 number

def escapeChar (c : Char) : List Char :=
  match c with
  | '\x00' => ['\\', '0']
  | '\t' => ['\\', 't']
  | '\r' => ['\\', 'r']
  | '\n' => ['\\', 'n']
  | '"' => ['\\', '"']
  | '\\' => ['\\', '\\']
  | c => if isPrintable c then [c] else ['\\', 'u', '{'] ++ hexDigits c.toNat ++ ['}']

def quote (text : String) : String :=
  String.ofList ('"' :: text.toList.flatMap escapeChar ++ ['"'])

end PackageDoc.Text
