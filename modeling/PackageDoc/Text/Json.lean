/-! # JSON text

Values are written without blanks.  The fields of an object keep their order, so whoever builds an
object puts them in the order that is wanted. -/
set_option autoImplicit false

namespace PackageDoc.Text

inductive Json where
  | null
  | boolean (value : Bool)
  | number (value : Nat)
  | text (content : String)
  | array (items : List Json)
  | object (fields : List (String × Json))

namespace Json

/-- Quotes, backslashes and the characters below the blank are escaped, five of these by a letter
and the others by their number. -/
def escape (c : Char) : List Char :=
  match c with
  | '"' => ['\\', '"']
  | '\\' => ['\\', '\\']
  | '\n' => ['\\', 'n']
  | '\r' => ['\\', 'r']
  | '\t' => ['\\', 't']
  | '\x08' => ['\\', 'b']
  | '\x0c' => ['\\', 'f']
  | c =>
    if c < ' ' then
      ['\\', 'u', '0', '0', Nat.digitChar (c.toNat / 16), Nat.digitChar (c.toNat % 16)]
    else [c]

def quote (content : String) : String :=
  String.ofList ('"' :: content.toList.flatMap escape ++ ['"'])

/-- Puts pieces between two characters, with commas in between. -/
def enclose (front back : Char) (pieces : List String) : String :=
  String.singleton front ++ String.intercalate "," pieces ++ String.singleton back

mutual

def render : Json → String
  | .null => "null"
  | .boolean value => if value then "true" else "false"
  | .number value => toString value
  | .text content => quote content
  | .array items => enclose '[' ']' (renderItems items)
  | .object fields => enclose '\x7b' '\x7d' (renderFields fields)

def renderItems : List Json → List String
  | [] => []
  | item :: rest => item.render :: renderItems rest

def renderFields : List (String × Json) → List String
  | [] => []
  | (key, value) :: rest => (quote key ++ ":" ++ value.render) :: renderFields rest

end

end Json
end PackageDoc.Text
