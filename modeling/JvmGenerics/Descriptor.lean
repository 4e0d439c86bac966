import JvmGenerics.BaseType
import JvmGenerics.Text.Parser

/-!
# Field and method descriptors

A descriptor is the erased type of a field or a method: primitive letters,
class names between a leading `L` and a closing semicolon, and one opening
bracket for each array level. A method descriptor lists its parameters in
parentheses and closes with the return type, or with `V` if there is none.
-/

namespace JvmGenerics

def maxDimensions : Nat := 255

/-- What remains of an erased type without its array levels. -/
inductive ElementType
  | base (type : BaseType)
  | object (internalName : String)
deriving DecidableEq

/-- An erased type: an element under a number of array levels. -/
structure FieldType where
  dimensions : Nat
  element : ElementType
deriving DecidableEq

/-- The erased parameters and return type of a method; `none` returns nothing. -/
structure MethodDescriptor where
  parameters : List FieldType
  returnType : Option FieldType
deriving DecidableEq

/-- A text that is no descriptor. -/
structure DescriptorError where
  descriptor : String
deriving DecidableEq

def DescriptorError.message (error : DescriptorError) : String :=
  "invalid descriptor: " ++ error.descriptor

namespace ElementType

def render : ElementType → List Char
  | base type => [type.letter]
  | object internalName => 'L' :: internalName.toList ++ [';']

/-- A class name is what precedes the first semicolon, and it is not empty. -/
def parser : TextParser Unit ElementType := do
  match ← TextParser.peek with
  | none => TextParser.stop ()
  | some next =>
    match BaseType.ofLetter? next with
    | some type =>
      TextParser.expect next ()
      return .base type
    | none =>
      TextParser.expect 'L' ()
      let name ← TextParser.takeWhile1 (· != ';') ()
      TextParser.expect ';' ()
      return .object (String.ofList name)

end ElementType

namespace FieldType

def render (type : FieldType) : List Char :=
  List.replicate type.dimensions '[' ++ type.element.render

/-- All opening brackets in a row belong to one array type. -/
def parser : TextParser Unit FieldType := do
  let brackets ← TextParser.takeWhile (· == '[')
  if brackets.length > maxDimensions then
    TextParser.stop ()
  return ⟨brackets.length, ← ElementType.parser⟩

def parse (descriptor : String) : Except DescriptorError FieldType :=
  (TextParser.parse (do let type ← parser; TextParser.finish (); return type)
    descriptor.toList).mapError fun _ => ⟨descriptor⟩

end FieldType

namespace MethodDescriptor

/-- The return type of a descriptor, where `V` stands for none. -/
def renderReturn : Option FieldType → List Char
  | none => ['V']
  | some type => type.render

def render (method : MethodDescriptor) : List Char :=
  '(' :: method.parameters.flatMap FieldType.render ++ ')' :: renderReturn method.returnType

/-- One more parameter, or `none` once the closing parenthesis is consumed. -/
def parameterParser : TextParser Unit (Option FieldType) := do
  if ← TextParser.eat ')' then return none
  return some (← FieldType.parser)

def parser : TextParser Unit MethodDescriptor := do
  TextParser.expect '(' ()
  let parameters ← TextParser.collect () parameterParser
  let returnType ← if ← TextParser.eat 'V' then pure none else some <$> FieldType.parser
  TextParser.finish ()
  return ⟨parameters, returnType⟩

def parse (descriptor : String) : Except DescriptorError MethodDescriptor :=
  (TextParser.parse parser descriptor.toList).mapError fun _ => ⟨descriptor⟩

end MethodDescriptor

end JvmGenerics
