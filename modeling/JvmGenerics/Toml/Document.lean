import JvmGenerics.Toml.Number

/-!
# TOML documents

Values, statements and documents of TOML 1.0. Every statement takes a line of its
own: a key with its value, which goes into the table opened last, or the header
that opens a table.
-/

namespace JvmGenerics.Toml

open TextParser

/-- A value that is neither an array nor a table. -/
def scalar : Parser Value := do
  match ← peek with
  | some '"' => return .string (← quoted '"')
  | some '\'' => return .string (← quoted '\'')
  | some 't' => if ← eatText "true".toList then return .boolean true else stop ()
  | some 'f' => if ← eatText "false".toList then return .boolean false else stop ()
  | some 'i' | some 'n' => specialFloat false
  | _ => number

section Nested

variable (value : Parser Value)

/-- One more item of an array, or `none` in front of its closing bracket. An item
that is followed by no comma is the last one. -/
def arrayItem : Parser (Option Value) := do
  gaps
  match ← peek with
  | some ']' => return none
  | _ =>
    let found ← value
    gaps
    match ← peek with
    | some ']' => return some found
    | _ => expect ',' (); return some found

def bracedEntry : Parser (List String × String × Value) := do
  let (path, key) ← dottedKey
  expect '=' ()
  blanks
  let found ← value
  blanks
  return (path, key, found)

/-- The entries of a table in braces, up to the closing brace. -/
def bracedEntries : Parser Entries := do
  blanks
  if ← eat '\x7d' then return []
  let first ← bracedEntry value
  let further ← collect () (do
    if ← eat ',' then return some (← bracedEntry value) else return none)
  expect '\x7d' ()
  let inserted := (first :: further).foldlM
    (fun (entries : Entries) (path, key, found) => entries.insert .inline path key found) []
  match inserted with
  | some entries => return entries
  | none => stop ()

def valueOver : Parser Value := do
  if ← eat '[' then
    let items ← collect () (arrayItem value)
    expect ']' ()
    return .array items
  if ← eat '\x7b' then return .table .inline (← bracedEntries value)
  scalar

end Nested

/-- A value with at most so many levels of arrays and tables. -/
def valueWithin : Nat → Parser Value
  | 0 => scalar
  | levels + 1 => valueOver (valueWithin levels)

def value : Parser Value :=
  valueWithin (maxDepth - 1)

/-- A document that is read in part: its entries, and the path to the table opened last. -/
structure Draft where
  entries : Entries
  current : List String

namespace Draft

def insert (draft : Draft) (path : List String) (key : String) (found : Value) :
    Option Draft := do
  let entries ← draft.entries.within false
    (fun form inner => inner.insert form path key found) draft.current .header
  return { draft with entries := entries }

def openTable (draft : Draft) (path : List String) (key : String) : Option Draft := do
  return ⟨← draft.entries.openTable path key, path ++ [key]⟩

def openTableOfArray (draft : Draft) (path : List String) (key : String) : Option Draft := do
  return ⟨← draft.entries.openTableOfArray path key, path ++ [key]⟩

end Draft

/-- A statement, or a line without one. -/
inductive Statement
  | entry (path : List String) (key : String) (value : Value)
  | table (path : List String) (key : String)
  | tableOfArray (path : List String) (key : String)
  | blank

/-- Take a statement into account, if the statements before it allow it. -/
def Statement.apply (statement : Statement) (draft : Draft) : Option Draft :=
  match statement with
  | entry path key value => draft.insert path key value
  | table path key => draft.openTable path key
  | tableOfArray path key => draft.openTableOfArray path key
  | blank => some draft

/-- One line with the line end, or `none` at the end of the document. -/
def line : Parser (Option Statement) := do
  blanks
  match ← peek with
  | none => return none
  | some '#' | some '\r' | some '\n' => endOfLine; return some .blank
  | some '[' =>
    if ← eatText ['[', '['] then
      let (path, key) ← dottedKey
      if !(← eatText [']', ']']) then stop ()
      endOfLine
      return some (.tableOfArray path key)
    expect '[' ()
    let (path, key) ← dottedKey
    expect ']' ()
    endOfLine
    return some (.table path key)
  | some _ =>
    let (path, key) ← dottedKey
    expect '=' ()
    blanks
    let found ← value
    endOfLine
    return some (.entry path key found)

/-- Read a document, which may begin with a byte order mark. -/
def parse (text : String) : Option Entries := do
  let characters := match text.toList with
    | '\ufeff' :: rest => rest
    | characters => characters
  let statements ← (TextParser.parse (collect () line) characters).toOption
  let draft ← statements.foldlM (fun draft statement => statement.apply draft) ⟨[], []⟩
  return draft.entries

end JvmGenerics.Toml
