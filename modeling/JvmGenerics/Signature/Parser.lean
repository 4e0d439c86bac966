import JvmGenerics.Descriptor
import JvmGenerics.Signature.Syntax
import JvmGenerics.Text.Parser

/-!
# Reading generic signatures

The grammar of class, method and field signatures. It is purely syntactic, and
every decision is taken on the next character, so a failure is located at the
first character that no signature could have in that place.

Reference types nest at most `maxNesting` deep, where a type argument, an array
component or a bound lies one level below the type that it belongs to. The parts
of a type are therefore read with a parser for the reference types in them, for
which fewer levels are left.
-/

namespace JvmGenerics.Signature

def maxNesting : Nat := 256

/-- Why a text is no signature. -/
inductive Reason
  | openingParenthesis
  | trailingInput
  | identifier
  | unterminatedParameters
  | emptyParameters
  | parameterColon
  | nesting
  | dimensions
  | referenceType
  | endOfSignature
  | typeVariable
  | typeVariableSemicolon
  | classType
  | classTypeSemicolon
  | unterminatedArguments
  | emptyArguments
deriving DecidableEq

def Reason.text : Reason → String
  | openingParenthesis => "expected `(`"
  | trailingInput => "unexpected trailing input"
  | identifier => "expected identifier"
  | unterminatedParameters => "unterminated type parameter list"
  | emptyParameters => "empty type parameter list"
  | parameterColon => "expected `:` after type parameter name"
  | nesting => "type nesting too deep"
  | dimensions => "more than 255 array dimensions"
  | referenceType => "expected reference type signature"
  | endOfSignature => "unexpected end of signature"
  | typeVariable => "expected type variable"
  | typeVariableSemicolon => "expected `;` after type variable"
  | classType => "expected class type signature"
  | classTypeSemicolon => "expected `;` after class type"
  | unterminatedArguments => "unterminated type argument list"
  | emptyArguments => "empty type argument list"

/-- A text that is no signature, with the place of the fault in bytes of UTF-8. -/
structure ParseError where
  signature : String
  position : Nat
  reason : Reason
deriving DecidableEq

def ParseError.message (error : ParseError) : String :=
  "invalid signature `" ++ error.signature ++ "` at offset " ++ toString error.position ++ ": "
    ++ error.reason.text

abbrev Parser (α : Type) := TextParser Reason α

open TextParser

def isDelimiter (c : Char) : Bool :=
  c == '.' || c == ';' || c == '[' || c == '/' || c == '<' || c == '>' || c == ':'

/-- A name: a longest run without delimiters, which must not be empty. -/
def identifier : Parser String :=
  String.ofList <$> takeWhile1 (fun c => !isDelimiter c) .identifier

/-- The names that follow the first one of a class type, each after a slash. -/
def furtherPackageName : Parser (Option String) := do
  if ← eat '/' then return some (← identifier)
  return none

def typeVariable : Parser ReferenceType := do
  expect 'T' .typeVariable
  let name ← identifier
  expect ';' .typeVariableSemicolon
  return .typeVariable name

section Parts

variable (reference : Parser ReferenceType)

/-- One type argument, or `none` once the closing bracket is consumed. -/
def argument : Parser (Option TypeArgument) := do
  match ← peek with
  | none => stop .unterminatedArguments
  | some '>' => expect '>' .unterminatedArguments; return none
  | some '*' => expect '*' .unterminatedArguments; return some .any
  | some '+' =>
    expect '+' .unterminatedArguments
    return some (.bounded .covariant (← reference))
  | some '-' =>
    expect '-' .unterminatedArguments
    return some (.bounded .contravariant (← reference))
  | some _ => return some (.bounded .invariant (← reference))

/-- The type arguments of one class, if it has any. -/
def arguments : Parser (List TypeArgument) := do
  if ← eat '<' then
    let found ← collect .endOfSignature (argument reference)
    if found.isEmpty then stop .emptyArguments
    return found
  return []

/-- One more member class, or `none` where no point follows. -/
def memberClass : Parser (Option (String × List TypeArgument)) := do
  if ← eat '.' then return some (← identifier, ← arguments reference)
  return none

/-- A class type. The last of the names between slashes is the class; the names
before it are its package. -/
def classType : Parser ClassType := do
  expect 'L' .classType
  let first ← identifier
  let further ← collect .endOfSignature furtherPackageName
  let names := first :: further
  let outermost := ClassType.topLevel names.dropLast (names.getLastD first)
    (← arguments reference)
  let members ← collect .endOfSignature (memberClass reference)
  expect ';' .classTypeSemicolon
  return members.foldl (fun outer member => .member outer member.1 member.2) outermost

def typeSignature : Parser TypeSignature := do
  match (← peek).bind BaseType.ofLetter? with
  | some type => expect type.letter .referenceType; return .base type
  | none => return .reference (← reference)

/-- A reference type whose parts are read with `reference`. All opening brackets
in a row belong to one array type. -/
def referenceTypeOver : Parser ReferenceType := do
  match ← peek with
  | none => stop .endOfSignature
  | some 'L' => return .classType (← classType reference)
  | some 'T' => typeVariable
  | some '[' =>
    let brackets ← takeWhile (· == '[')
    if brackets.length > maxDimensions then stop .dimensions
    return .array brackets.length (← typeSignature reference)
  | some _ => stop .referenceType

end Parts

/-- A reference type that may nest so many levels deep. These are the levels left to a reader
which counts those that it is in. -/
def referenceTypeWithin : Nat → Parser ReferenceType
  | 0 => stop .nesting
  | levels + 1 => referenceTypeOver (referenceTypeWithin levels)

def referenceType : Parser ReferenceType :=
  referenceTypeWithin maxNesting

/-- One more interface bound, or `none` where no colon follows. -/
def interfaceBound : Parser (Option ReferenceType) := do
  if ← eat ':' then return some (← referenceType)
  return none

/-- A class bound, which a parameter may leave out. -/
def classBound : Parser (Option ReferenceType) := do
  match ← peek with
  | some 'L' | some 'T' | some '[' => return some (← referenceType)
  | _ => return none

/-- One type parameter, or `none` once the closing bracket is consumed. -/
def typeParameter : Parser (Option TypeParameter) := do
  match ← peek with
  | none => stop .unterminatedParameters
  | some '>' => expect '>' .unterminatedParameters; return none
  | some _ =>
    let name ← identifier
    expect ':' .parameterColon
    return some ⟨name, ← classBound, ← collect .endOfSignature interfaceBound⟩

/-- The declared type parameters, if there are any. -/
def typeParameters : Parser (List TypeParameter) := do
  if ← eat '<' then
    let found ← collect .endOfSignature typeParameter
    if found.isEmpty then stop .emptyParameters
    return found
  return []

/-- One more interface, or `none` at the end of the signature. -/
def interface : Parser (Option ClassType) := do
  match ← peek with
  | none => return none
  | some _ => return some (← classType referenceType)

/-- One more parameter type, or `none` once the closing parenthesis is consumed. -/
def parameter : Parser (Option TypeSignature) := do
  if ← eat ')' then return none
  return some (← typeSignature referenceType)

/-- One more thrown type, or `none` where no circumflex follows. -/
def thrown : Parser (Option ReferenceType) := do
  if ← eat '^' then
    match ← peek with
    | some 'T' => return some (← typeVariable)
    | _ => return some (.classType (← classType referenceType))
  return none

def classSignature : Parser ClassSignature := do
  let parameters ← typeParameters
  let superclass ← classType referenceType
  return ⟨parameters, superclass, ← collect .endOfSignature interface⟩

def methodSignature : Parser MethodSignature := do
  let declared ← typeParameters
  expect '(' .openingParenthesis
  let parameters ← collect .endOfSignature parameter
  let returnType ← if ← eat 'V' then pure none else some <$> typeSignature referenceType
  let throws ← collect .endOfSignature thrown
  finish .trailingInput
  return ⟨declared, parameters, returnType, throws⟩

def fieldSignature : Parser ReferenceType := do
  let type ← referenceType
  finish .trailingInput
  return type

/-- The number of bytes that a list of characters takes in UTF-8. -/
def utf8Length (text : List Char) : Nat :=
  text.foldr (fun c size => c.utf8Size + size) 0

/-- Run a parser on a signature; what it had consumed when it stopped is the
place of the fault. -/
def run {α : Type} (parser : Parser α) (signature : String) : Except ParseError α :=
  (parse parser signature.toList).mapError fun stopped =>
    ⟨signature, utf8Length signature.toList - utf8Length stopped.ahead, stopped.reason⟩

def parseClass (signature : String) : Except ParseError ClassSignature :=
  run classSignature signature

def parseMethod (signature : String) : Except ParseError MethodSignature :=
  run methodSignature signature

def parseField (signature : String) : Except ParseError ReferenceType :=
  run fieldSignature signature

end JvmGenerics.Signature
