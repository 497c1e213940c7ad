/-! # Values of a settings document

A document is a table.  Tables remember how they came to be, because that decides what may still be
added to them. -/
set_option autoImplicit false

namespace PackageDoc.Toml

/-- Why a text is no document, or no document of the expected shape. -/
inductive Fault where
  | malformed
  | control
  | escape
  | number
  | dateTime
  | duplicateKey
  | depth
  | shape
  | range
  deriving DecidableEq, Repr

inductive TableKind where
  /-- Opened by a header of its own. -/
  | headed
  /-- On the way to a header below it. -/
  | implied
  /-- On the way of a dotted key. -/
  | dotted
  /-- Written between braces. -/
  | inline
  deriving DecidableEq, Repr

inductive Value where
  | text (content : String)
  | integer (value : Int)
  /-- A floating-point number; the flag tells whether it is beyond the largest one. -/
  | float (overflow : Bool)
  | boolean (value : Bool)
  | dateTime
  /-- An array; the flag tells whether it was made by headers. -/
  | array (headed : Bool) (items : List Value)
  | table (kind : TableKind) (entries : List (String × Value))

abbrev Entries := List (String × Value)

namespace Entries

def get? (entries : Entries) (key : String) : Option Value :=
  (List.find? (fun entry => entry.1 = key) entries).map (·.2)

/-- Gives a key a value, in place if the key is there. -/
def insert (key : String) (value : Value) : Entries → Entries
  | [] => [(key, value)]
  | (other, old) :: rest =>
    if other = key then (key, value) :: rest else (other, old) :: insert key value rest

end Entries

/-! ## Growing a table -/

/-- The table that a key leads to, with what puts a new content there: an existing table, the last
table of an array made by headers, or a new table.  A dotted key opens no table that has a header,
and nothing opens an inline table. -/
def Entries.child? (entries : Entries) (dotted : Bool) (key : String) :
    Except Fault (TableKind × Entries × (Entries → Value)) :=
  match entries.get? key with
  | none =>
    let kind := if dotted then TableKind.dotted else .implied
    .ok (kind, [], .table kind)
  | some (.table kind inner) =>
    if kind = .inline ∨ (dotted ∧ kind = .headed) then .error .duplicateKey
    else .ok (kind, inner, .table kind)
  | some (.array true items) =>
    match items.reverse with
    | .table kind inner :: before =>
      .ok (kind, inner, fun inner => .array true ((.table kind inner :: before).reverse))
    | _ => .error .duplicateKey
  | some _ => .error .duplicateKey

/-- Changes the table at the end of a path. -/
def Entries.updateAt (dotted : Bool) (change : TableKind → Entries → Except Fault Entries) :
    TableKind → List String → Entries → Except Fault Entries
  | kind, [], entries => change kind entries
  | _, key :: path, entries => do
    let (kind, inner, wrap) ← entries.child? dotted key
    let inner ← updateAt dotted change kind path inner
    return entries.insert key (wrap inner)

/-- Adds a key and its value to a table.  A key of several parts adds only to tables that such keys
have made. -/
def Entries.addKey (path : List String) (key : String) (value : Value) (entries : Entries) :
    Except Fault Entries :=
  entries.updateAt true (fun kind inner =>
    if (kind = .dotted) = path.isEmpty then .error .duplicateKey
    else if (inner.get? key).isSome then .error .duplicateKey
    else .ok (inner ++ [(key, value)])) .headed path

/-- Opens the table of a header. -/
def Entries.openTable (path : List String) (key : String) (entries : Entries) :
    Except Fault Entries :=
  entries.updateAt false (fun _ inner =>
    match inner.get? key with
    | none => .ok (inner ++ [(key, .table .headed [])])
    | some (.table .implied below) => .ok (inner.insert key (.table .headed below))
    | some _ => .error .duplicateKey) .headed path

/-- Opens the next table of an array of tables. -/
def Entries.openItem (path : List String) (key : String) (entries : Entries) :
    Except Fault Entries :=
  entries.updateAt false (fun _ inner =>
    match inner.get? key with
    | none => .ok (inner ++ [(key, .array true [.table .headed []])])
    | some (.array true items) =>
      .ok (inner.insert key (.array true (items ++ [.table .headed []])))
    | some _ => .error .duplicateKey) .headed path

/-- Adds a key to the table that the last header opened. -/
def Entries.addBelow (header : List String) (path : List String) (key : String) (value : Value)
    (entries : Entries) : Except Fault Entries :=
  entries.updateAt false (fun _ inner => inner.addKey path key value) .headed header

end PackageDoc.Toml
