import JvmGenerics.Number.Binary64

/-!
# TOML values

A document is a table, and so is every value in braces or under a header. A
table keeps its entries in the order in which they were written. How a table
came about decides what may still be added to it.
-/

namespace JvmGenerics.Toml

/-- How a table came about. -/
inductive TableForm
  /-- Written in braces, and complete with that. -/
  | inline
  /-- The document itself, or a table with a header of its own. -/
  | header
  /-- Only named on the way to another header. -/
  | implicit
  /-- Only named on the way to a dotted key. -/
  | dotted
deriving DecidableEq

/-- A value, where a date is kept as it is written. -/
inductive Value
  | string (text : String)
  | integer (value : Int)
  | float (literal : Binary64.Literal)
  | boolean (value : Bool)
  | datetime (literal : String)
  | array (items : List Value)
  | table (form : TableForm) (entries : List (String × Value))
  /-- The tables that share a header in double brackets; each has its entries. -/
  | tableArray (tables : List (List (String × Value)))

/-- The entries of a table in the order of writing. -/
abbrev Entries := List (String × Value)

namespace Entries

/-- Put a value in the place of the one that a key has. -/
def replace (entries : Entries) (key : String) (value : Value) : Entries :=
  entries.map fun entry => if entry.1 = key then (key, value) else entry

def remove (entries : Entries) (key : String) : Entries :=
  entries.filter fun entry => entry.1 ≠ key

/-- Go down along a path and change the table at its end. A key on the path that
is not there yet becomes a table, and the last table stands for an array of
tables. A table with a header of its own is closed to dotted keys, and one in
braces is closed altogether. -/
def within (isDotted : Bool) (change : TableForm → Entries → Option Entries) :
    List String → TableForm → Entries → Option Entries
  | [], form, entries => change form entries
  | key :: path, _, entries =>
    match entries.lookup key with
    | none => do
      let form := if isDotted then TableForm.dotted else TableForm.implicit
      return entries ++ [(key, .table form (← within isDotted change path form []))]
    | some (.table form inner) =>
      if form = .inline || (isDotted && form = .header) then none
      else return entries.replace key (.table form (← within isDotted change path form inner))
    | some (.tableArray tables) => do
      let last ← tables.getLast?
      let changed ← within isDotted change path .header last
      return entries.replace key (.tableArray (tables.dropLast ++ [changed]))
    | some _ => none

/-- Add a value under a dotted key. No key is written twice, and the table that
takes the value must have come about by dotted keys, unless it is this one. -/
def insert (entries : Entries) (form : TableForm) (path : List String) (key : String)
    (value : Value) : Option Entries :=
  within true (fun found inner =>
      if (found = .dotted) = path.isEmpty || (inner.lookup key).isSome then none
      else some (inner ++ [(key, value)]))
    path form entries

/-- Open a table by its header. A table that was only named on the way to another
header is opened in its new place. -/
def openTable (entries : Entries) (path : List String) (key : String) : Option Entries :=
  within false (fun _ inner =>
      match inner.lookup key with
      | none => some (inner ++ [(key, .table .header [])])
      | some (.table .implicit found) => some (inner.remove key ++ [(key, .table .header found)])
      | some _ => none)
    path .header entries

/-- Open one more table of an array of tables by its header. -/
def openTableOfArray (entries : Entries) (path : List String) (key : String) : Option Entries :=
  within false (fun _ inner =>
      match inner.lookup key with
      | none => some (inner ++ [(key, .tableArray [[]])])
      | some (.tableArray tables) => some (inner.replace key (.tableArray (tables ++ [[]])))
      | some _ => none)
    path .header entries

end Entries

end JvmGenerics.Toml
