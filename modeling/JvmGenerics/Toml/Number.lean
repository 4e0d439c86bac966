import JvmGenerics.Toml.Lexical
import JvmGenerics.Toml.Value

/-!
# Numbers and dates of TOML

Integers have 64 bits with a sign. A float is a decimal number with a fraction or
an exponent, and a positive one does not exceed what a double can hold.
Underscores may stand between digits.
-/

namespace JvmGenerics.Toml

open TextParser

/-- Whether a run of digits and underscores has a digit on both sides of every underscore. -/
def isGrouped : List Char → Bool
  | [] => false
  | [last] => last != '_'
  | '_' :: _ => false
  | _ :: '_' :: rest => isGrouped rest
  | _ :: rest => isGrouped rest

/-- A run of digits, without the underscores between them. -/
def digits (isDigit : Char → Bool) : Parser (List Char) := do
  let run ← takeWhile1 (fun c => isDigit c || c == '_') ()
  if isGrouped run then return run.filter (· != '_')
  stop ()

def valueOf (base : Nat) (run : List Char) : Nat :=
  run.foldl (fun value c =>
    let digit := if c.isDigit then c.toNat - '0'.toNat else c.toLower.toNat - 'a'.toNat + 10
    value * base + digit) 0

def sign : Parser (List Char) := do
  if ← eat '+' then return ['+']
  if ← eat '-' then return ['-']
  return []

def wholeDigits : Parser (List Char) := do
  match ← digits Char.isDigit with
  | ['0'] => return ['0']
  | '0' :: _ => stop ()
  | run => return run

def isHexDigit (c : Char) : Bool :=
  c.isDigit || ('a' ≤ c && c ≤ 'f') || ('A' ≤ c && c ≤ 'F')

/-- An integer in a base other than ten, after the letter of the base. -/
def basedInteger (base : Nat) (isDigit : Char → Bool) : Parser Value := do
  let value := valueOf base (← digits isDigit)
  if value < Nat.pow 2 63 then return .integer value
  stop ()

def integer : Parser Value := do
  if ← eatText ['0', 'x'] then basedInteger 16 isHexDigit
  else if ← eatText ['0', 'o'] then basedInteger 8 fun c => '0' ≤ c && c ≤ '7'
  else if ← eatText ['0', 'b'] then basedInteger 2 fun c => c == '0' || c == '1'
  else
    let isNegative := (← sign) == ['-']
    let magnitude := valueOf 10 (← wholeDigits)
    if isNegative && magnitude ≤ Nat.pow 2 63 then return .integer (-magnitude)
    if !isNegative && magnitude < Nat.pow 2 63 then return .integer magnitude
    stop ()

def exponent : Parser (Option Int) := do
  let marked ← if ← eat 'e' then pure true else eat 'E'
  if marked then
    let isNegative := (← sign) == ['-']
    let magnitude : Int := valueOf 10 (← digits Char.isDigit)
    return some (if isNegative then -magnitude else magnitude)
  return none

def fraction : Parser (Option (List Char)) := do
  if ← eat '.' then return some (← digits Char.isDigit)
  return none

/-- A float that is no number, or infinite. -/
def specialFloat (isNegative : Bool) : Parser Value := do
  if ← eatText ['i', 'n', 'f'] then return .float (.infinite isNegative)
  if ← eatText ['n', 'a', 'n'] then return .float .notANumber
  stop ()

def float : Parser Value := do
  let isNegative := (← sign) == ['-']
  match ← peek with
  | some 'i' | some 'n' => specialFloat isNegative
  | _ =>
    let whole ← wholeDigits
    let decimals ← fraction
    let power ← exponent
    if decimals.isNone && power.isNone then stop ()
    let behind := decimals.getD []
    let value : Binary64.Decimal :=
      ⟨isNegative, valueOf 10 (whole ++ behind), power.getD 0 - behind.length⟩
    if !isNegative && (Binary64.ofDecimal value).isNone then stop ()
    return .float (.finite value)

def field (count least greatest : Nat) : Parser Nat := fun text =>
  let run := text.take count
  if run.length = count && run.all Char.isDigit && least ≤ valueOf 10 run
      && valueOf 10 run ≤ greatest then
    .ok (valueOf 10 run, text.drop count)
  else .error ⟨text, ()⟩

def daysOf (year month : Nat) : Nat :=
  if month = 2 then
    if year % 4 = 0 && (year % 100 ≠ 0 || year % 400 = 0) then 29 else 28
  else if month = 4 || month = 6 || month = 9 || month = 11 then 30
  else 31

def date : Parser Unit := do
  let year ← field 4 0 9999
  expect '-' ()
  let month ← field 2 1 12
  expect '-' ()
  let _ ← field 2 1 (daysOf year month)

/-- A time of the day, which may be a leap second. -/
def time : Parser Unit := do
  let _ ← field 2 0 23
  expect ':' ()
  let _ ← field 2 0 59
  expect ':' ()
  let _ ← field 2 0 60
  if ← eat '.' then
    let _ ← takeWhile1 Char.isDigit ()

def offset : Parser Unit := do
  if ← eat 'Z' then return
  if ← eat 'z' then return
  if (← sign).isEmpty then stop ()
  let _ ← field 2 0 23
  expect ':' ()
  let _ ← field 2 0 59

/-- A time after a date, with the mark between them. -/
def timeOfDate : Parser Unit := do
  match ← peek with
  | some 'T' => expect 'T' ()
  | some 't' => expect 't' ()
  | _ => expect ' ' ()
  time
  let _ ← attempt offset

def datetime : Parser Value := fun text => do
  let both : Parser Unit := do
    date
    let _ ← attempt timeOfDate
  let ((), rest) ← (do
    match ← attempt both with
    | some () => return
    | none => time : Parser Unit) text
  return (.datetime (String.ofList (text.take (text.length - rest.length))), rest)

def number : Parser Value := do
  match ← attempt datetime with
  | some value => return value
  | none =>
    match ← attempt float with
    | some value => return value
    | none => integer

end JvmGenerics.Toml
