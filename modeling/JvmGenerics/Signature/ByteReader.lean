import JvmGenerics.Signature.Parser
import JvmGenerics.Text.Bytes

/-!
# Reading generic signatures byte by byte

The grammar of signatures once more, for a reader that moves through the bytes of a text. It
counts how deep the types nest around its place: the count is raised in front of a reference type
and lowered behind it, also where that type is refused. A name is read as far as the bytes go on
without a delimiter and is then cut out of the text.
-/

namespace JvmGenerics.Signature

open Utf8

/-- A reader of a text: its place among the bytes, and how deep the types nest there. -/
structure ByteReader where
  text : String
  position : Nat
  depth : Nat

/-- Why a reader gives up. -/
inductive Fault
  | refused (error : ParseError)
  /-- A name would be cut out of the text inside of a character. -/
  | insideCharacter
  /-- A repetition or a recursion has come to the end of the rounds that it was given. -/
  | exhausted

abbrev Reading (α : Type) := ExceptT Fault (StateM ByteReader) α

namespace Reading

def refuse {α : Type} (reason : Reason) : Reading α := do
  let reader ← get
  throw (.refused ⟨reader.text, reader.position, reason⟩)

def advance (count : Nat) : Reading Unit :=
  modify fun reader => { reader with position := reader.position + count }

/-- The next byte, left in place, taken for a character; `none` at the end of the text. -/
def peek : Reading (Option Char) := do
  let reader ← get
  return (bytes reader.text)[reader.position]?.map Char.ofUInt8

def eat (wanted : Char) : Reading Bool := do
  if (← peek) = some wanted then
    advance 1
    return true
  return false

def expect (wanted : Char) (reason : Reason) : Reading Unit := do
  if ← eat wanted then return ()
  refuse reason

/-- Consume bytes as long as they look like accepted characters. -/
def takeWhile (accepts : Char → Bool) : Reading (List Char) := do
  let reader ← get
  let found := ((bytes reader.text).drop reader.position).takeWhile (accepts ∘ Char.ofUInt8)
  advance found.length
  return found.map Char.ofUInt8

def finish (reason : Reason) : Reading Unit := do
  if (← peek).isSome then refuse reason

def identifier : Reading String := do
  let reader ← get
  let last := nameEnd isDelimiter (bytes reader.text) reader.position
  modify fun reader => { reader with position := last }
  if last = reader.position then refuse .identifier
  let some name := slice? reader.text reader.position last | throw .insideCharacter
  return name

/-- Repeat `item` until it answers `none`, at most `rounds` times. -/
def collectWithin {α : Type} (item : Reading (Option α)) : Nat → Reading (List α)
  | 0 => throw .exhausted
  | rounds + 1 => do
    match ← item with
    | none => return []
    | some first => return first :: (← collectWithin item rounds)

def collect {α : Type} (item : Reading (Option α)) : Reading (List α) := do
  let reader ← get
  collectWithin item ((bytes reader.text).length - reader.position + 1)

/-- Read one level deeper than here, unless that is too deep. -/
def nested {α : Type} (body : Reading α) : Reading α := do
  if maxNesting ≤ (← get).depth then refuse .nesting
  modify fun reader => { reader with depth := reader.depth + 1 }
  let answer ← observing body
  modify fun reader => { reader with depth := reader.depth - 1 }
  MonadExcept.ofExcept answer

def furtherPackageName : Reading (Option String) := do
  if ← eat '/' then return some (← identifier)
  return none

def typeVariable : Reading ReferenceType := do
  expect 'T' .typeVariable
  let name ← identifier
  expect ';' .typeVariableSemicolon
  return .typeVariable name

section Parts

variable (reference : Reading ReferenceType)

def argument : Reading (Option TypeArgument) := do
  match ← peek with
  | none => refuse .unterminatedArguments
  | some '>' => expect '>' .unterminatedArguments; return none
  | some '*' => expect '*' .unterminatedArguments; return some .any
  | some '+' =>
    expect '+' .unterminatedArguments
    return some (.bounded .covariant (← reference))
  | some '-' =>
    expect '-' .unterminatedArguments
    return some (.bounded .contravariant (← reference))
  | some _ => return some (.bounded .invariant (← reference))

def arguments : Reading (List TypeArgument) := do
  if ← eat '<' then
    let found ← collect (argument reference)
    if found.isEmpty then refuse .emptyArguments
    return found
  return []

def memberClass : Reading (Option (String × List TypeArgument)) := do
  if ← eat '.' then return some (← identifier, ← arguments reference)
  return none

/-- A class type. It is not counted as a level: what counts is a reference type, which may be a
class type. -/
def classType : Reading ClassType := do
  expect 'L' .classType
  let first ← identifier
  let further ← collect furtherPackageName
  let names := first :: further
  let outermost := ClassType.topLevel names.dropLast (names.getLastD first)
    (← arguments reference)
  let members ← collect (memberClass reference)
  expect ';' .classTypeSemicolon
  return members.foldl (fun outer member => .member outer member.1 member.2) outermost

def typeSignature : Reading TypeSignature := do
  match (← peek).bind BaseType.ofLetter? with
  | some type => expect type.letter .referenceType; return .base type
  | none => return .reference (← reference)

def referenceTypeOver : Reading ReferenceType := do
  match ← peek with
  | none => refuse .endOfSignature
  | some 'L' => return .classType (← classType reference)
  | some 'T' => typeVariable
  | some '[' =>
    let brackets ← takeWhile (· == '[')
    if brackets.length > maxDimensions then refuse .dimensions
    return .array brackets.length (← typeSignature reference)
  | some _ => refuse .referenceType

end Parts

/-- A reference type, whose parts are read in the same way. The rounds only make the recursion
end; it is the count of the reader that limits the nesting. -/
def referenceTypeBy : Nat → Reading ReferenceType
  | 0 => throw .exhausted
  | rounds + 1 => nested (referenceTypeOver (referenceTypeBy rounds))

def referenceType : Reading ReferenceType :=
  referenceTypeBy (maxNesting + 1)

def interfaceBound : Reading (Option ReferenceType) := do
  if ← eat ':' then return some (← referenceType)
  return none

def classBound : Reading (Option ReferenceType) := do
  match ← peek with
  | some 'L' | some 'T' | some '[' => return some (← referenceType)
  | _ => return none

def typeParameter : Reading (Option TypeParameter) := do
  match ← peek with
  | none => refuse .unterminatedParameters
  | some '>' => expect '>' .unterminatedParameters; return none
  | some _ =>
    let name ← identifier
    expect ':' .parameterColon
    return some ⟨name, ← classBound, ← collect interfaceBound⟩

def typeParameters : Reading (List TypeParameter) := do
  if ← eat '<' then
    let found ← collect typeParameter
    if found.isEmpty then refuse .emptyParameters
    return found
  return []

def interface : Reading (Option ClassType) := do
  match ← peek with
  | none => return none
  | some _ => return some (← classType referenceType)

def parameter : Reading (Option TypeSignature) := do
  if ← eat ')' then return none
  return some (← typeSignature referenceType)

def thrown : Reading (Option ReferenceType) := do
  if ← eat '^' then
    match ← peek with
    | some 'T' => return some (← typeVariable)
    | _ => return some (.classType (← classType referenceType))
  return none

def returnType : Reading (Option TypeSignature) := do
  if ← eat 'V' then return none
  some <$> typeSignature referenceType

def classSignature : Reading ClassSignature := do
  let parameters ← typeParameters
  let superclass ← classType referenceType
  return ⟨parameters, superclass, ← collect interface⟩

def methodSignature : Reading MethodSignature := do
  let declared ← typeParameters
  expect '(' .openingParenthesis
  let parameters ← collect parameter
  let returned ← returnType
  let throws ← collect thrown
  finish .trailingInput
  return ⟨declared, parameters, returned, throws⟩

def fieldSignature : Reading ReferenceType := do
  let type ← referenceType
  finish .trailingInput
  return type

/-- Read a text from its first byte. -/
def parse {α : Type} (reading : Reading α) (text : String) : Except Fault α :=
  (reading.run.run ⟨text, 0, 0⟩).1

def parseClass (text : String) : Except Fault ClassSignature :=
  parse classSignature text

def parseMethod (text : String) : Except Fault MethodSignature :=
  parse methodSignature text

def parseField (text : String) : Except Fault ReferenceType :=
  parse fieldSignature text

end Reading

end JvmGenerics.Signature
