import JvmGenerics.Text.Parser

/-!
# Spaces, comments, strings and keys of TOML

Control characters other than tabs stand nowhere but in line ends, which are a
line feed with or without a carriage return before it.
-/

namespace JvmGenerics.Toml

/-- Parsers of the parts of a document. Where a document fails does not matter. -/
abbrev Parser (α : Type) := TextParser Unit α

open TextParser

/-- Whether a character may stand in a comment or, quotes and escapes apart, in a string. -/
def isPlain (c : Char) : Bool :=
  c == '\t' || (' ' ≤ c && c ≠ '\x7f')

def isBlank (c : Char) : Bool :=
  c == ' ' || c == '\t'

def isBareKey (c : Char) : Bool :=
  c.isAlphanum || c == '-' || c == '_'

def blanks : Parser Unit := do
  let _ ← takeWhile isBlank

/-- A line end, if one comes next. -/
def eatNewline : Parser Bool := do
  if ← eat '\n' then return true
  eatText ['\r', '\n']

/-- Skip a comment, if one comes next. -/
def comment : Parser Unit := do
  if ← eat '#' then
    let _ ← takeWhile isPlain

/-- What may follow on the line of a statement: nothing but a comment. -/
def endOfLine : Parser Unit := do
  blanks
  comment
  if (← peek).isSome then
    if !(← eatNewline) then stop ()

/-- Spaces, or a line end that may have a comment before it; `none` if neither comes next. -/
def gap : Parser (Option Unit) := do
  match ← peek with
  | some ' ' | some '\t' => blanks; return some ()
  | some '#' | some '\r' | some '\n' =>
    comment
    if ← eatNewline then return some ()
    stop ()
  | _ => return none

def gaps : Parser Unit := do
  let _ ← collect () gap

def hexDigit : Parser Nat := do
  match ← peek with
  | none => stop ()
  | some c =>
    expect c ()
    if c.isDigit then return c.toNat - '0'.toNat
    if 'a' ≤ c && c ≤ 'f' then return c.toNat - 'a'.toNat + 10
    if 'A' ≤ c && c ≤ 'F' then return c.toNat - 'A'.toNat + 10
    stop ()

/-- The number that goes on from `value` with so many hexadecimal digits. -/
def hexNumber : Nat → Nat → Parser Nat
  | 0, value => return value
  | count + 1, value => do hexNumber count (value * 16 + (← hexDigit))

/-- The character whose number is written in so many hexadecimal digits. -/
def numberedCharacter (digits : Nat) : Parser Char := do
  let value ← hexNumber digits 0
  if value.isValidChar then return Char.ofNat value
  stop ()

/-- The character that an escape stands for, after the backslash. -/
def escape : Parser Char := do
  match ← peek with
  | some 'u' => expect 'u' (); numberedCharacter 4
  | some 'U' => expect 'U' (); numberedCharacter 8
  | some 'b' => expect 'b' (); return '\x08'
  | some 't' => expect 't' (); return '\t'
  | some 'n' => expect 'n' (); return '\n'
  | some 'f' => expect 'f' (); return '\x0c'
  | some 'r' => expect 'r' (); return '\r'
  | some '"' => expect '"' (); return '"'
  | some '\\' => expect '\\' (); return '\\'
  | _ => stop ()

def plainCharacter : Parser Char := do
  match ← peek with
  | none => stop ()
  | some c => if isPlain c then expect c (); return c else stop ()

/-- One character of a quoted line, or `none` once the closing quote is consumed. -/
def lineCharacter (quote : Char) : Parser (Option Char) := do
  if ← eat quote then return none
  if quote == '"' then
    if ← eat '\\' then return some (← escape)
  return some (← plainCharacter)

/-- The rest of a line after a backslash, with all space before the next text. -/
def foldedLine : Parser Unit := do
  blanks
  if !(← eatNewline) then stop ()
  let _ ← collect () (do
    match ← peek with
    | some ' ' | some '\t' => blanks; return some ()
    | _ => if ← eatNewline then return some () else return none)

/-- One quote of a text in triple quotes, or `none` once the closing quotes are
consumed. Up to two quotes may stand before the closing ones. -/
def quoteInside (quote : Char) : Parser (Option (List Char)) := fun text =>
  let run := (text.takeWhile (· == quote)).length
  if run = 3 then .ok (none, text.drop 3)
  else if run ≤ 5 then .ok (some [quote], text.drop 1)
  else .error ⟨text, ()⟩

/-- What comes next in a text in triple quotes, or `none` at its end. -/
def textPiece (quote : Char) : Parser (Option (List Char)) := do
  match ← peek with
  | none => stop ()
  | some c =>
    if c == quote then quoteInside quote
    else if ← eatNewline then return some ['\n']
    else if quote == '"' && c == '\\' then
      expect '\\' ()
      match ← attempt foldedLine with
      | some () => return some []
      | none => return some [← escape]
    else return some [← plainCharacter]

/-- A string in single or triple quotes of one kind, after a look at its first quote. -/
def quoted (quote : Char) : Parser String := do
  if ← eatText [quote, quote, quote] then
    let _ ← eatNewline
    return String.ofList (← collect () (textPiece quote)).flatten
  expect quote ()
  return String.ofList (← collect () (lineCharacter quote))

/-- One key: bare, or quoted on one line. -/
def simpleKey : Parser String := do
  match ← peek with
  | some '"' => expect '"' (); return String.ofList (← collect () (lineCharacter '"'))
  | some '\'' => expect '\'' (); return String.ofList (← collect () (lineCharacter '\''))
  | _ => return String.ofList (← takeWhile1 isBareKey ())

def maxDepth : Nat := 80

/-- A dotted key: the path to a table, and the key in it. -/
def dottedKey : Parser (List String × String) := do
  let spaced : Parser String := do
    blanks
    let key ← simpleKey
    blanks
    return key
  let first ← spaced
  let further ← collect () (do if ← eat '.' then return some (← spaced) else return none)
  let keys := first :: further
  if keys.length ≥ maxDepth then stop ()
  return (keys.dropLast, keys.getLastD first)

end JvmGenerics.Toml
