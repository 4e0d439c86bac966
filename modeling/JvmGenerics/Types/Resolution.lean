import JvmGenerics.Names
import JvmGenerics.Descriptor
import JvmGenerics.Signature.Syntax
import JvmGenerics.Types.Store

/-!
# Resolution of signatures

Resolution turns signatures and descriptors into resolved types. What it needs
to know of a place is where a class comes from and which scope declares a type
variable there. Both questions are asked in the surroundings' own monad, from
left to right and each time a name occurs: surroundings that answer from a fixed
table are as good as surroundings that load classes when they are asked.
-/

namespace JvmGenerics

/-- The answers of a place to the questions of resolution. -/
structure Surroundings (m : Type → Type) where
  originOf : String → m Origin
  declaringScope : String → m (Option ScopeId)

/-- The resolved supertypes of a class. -/
structure Supertypes where
  superclass : Option JavaType
  interfaces : List JavaType
deriving DecidableEq

/-- The resolved types of a method; without a return type it returns nothing. -/
structure MethodTypes where
  parameters : List JavaType
  returnType : Option JavaType
  throws : List JavaType
deriving DecidableEq

namespace Surroundings

open Signature

variable {m : Type → Type} [Monad m] (place : Surroundings m)

/-- A reference to the class of a given binary name. -/
def classRef (name : String) : m ClassRef :=
  return ⟨name, 0, ← place.originOf name⟩

/-- A reference to the type parameter that the name stands for in this place. -/
def typeVariable (name : String) : m TypeVariable :=
  return ⟨name, ← place.declaringScope name⟩

/-- A class with type arguments, or the plain class if there are none. -/
def withArguments (raw : ClassRef) : List JavaType → JavaType
  | [] => .classRef raw
  | arguments => .parameterized raw arguments

/-- The wildcard, or the type itself, that a type argument stands for. -/
def withVariance : Variance → JavaType → JavaType
  | .invariant, type => type
  | .covariant, bound => .wildcard [bound] []
  | .contravariant, bound => .wildcard [] [bound]

mutual

/-- Only the type arguments of the innermost class are kept. -/
def classType : ClassType → m JavaType
  | .topLevel package name arguments => do
    let raw ← place.classRef (ClassType.topLevel package name arguments).binaryName
    return withArguments raw (← typeArguments arguments)
  | .member outer name arguments => do
    let raw ← place.classRef (ClassType.member outer name arguments).binaryName
    return withArguments raw (← typeArguments arguments)
termination_by structural type => type

def referenceType : ReferenceType → m JavaType
  | .classType type => classType type
  | .typeVariable name => return .typeVariable (← place.typeVariable name)
  | .array dimensions component => return (← typeSignature component).arrayOf dimensions
termination_by structural type => type

def typeSignature : TypeSignature → m JavaType
  | .base type => return .classRef (ClassRef.ofBase type)
  | .reference type => referenceType type
termination_by structural type => type

def typeArguments : List TypeArgument → m (List JavaType)
  | [] => return []
  | .any :: rest => return .wildcard [] [] :: (← typeArguments rest)
  | .bounded variance type :: rest => do
    let bound ← referenceType type
    return withVariance variance bound :: (← typeArguments rest)
termination_by structural arguments => arguments

end

/-- The bounds of a type parameter, which are never empty. -/
def bounds (parameter : Signature.TypeParameter) : m (List JavaType) := do
  match parameter.bounds with
  | [] => return [.classRef (← place.classRef objectName)]
  | declared => declared.mapM place.referenceType

def typeParameters (parameters : List Signature.TypeParameter) :
    m (List (String × List JavaType)) :=
  parameters.mapM fun parameter => return (parameter.name, ← place.bounds parameter)

def supertypes (signature : ClassSignature) : m Supertypes :=
  return ⟨some (← place.classType signature.superclass),
    ← signature.interfaces.mapM place.classType⟩

/-- The supertypes of a class without a signature, by name. -/
def erasedSupertypes (superclass : Option String) (interfaces : List String) : m Supertypes :=
  return ⟨← superclass.mapM fun name => return .classRef (← place.classRef name),
    ← interfaces.mapM fun name => return .classRef (← place.classRef name)⟩

def methodTypes (signature : MethodSignature) : m MethodTypes :=
  return ⟨← signature.parameters.mapM place.typeSignature,
    ← signature.returnType.mapM place.typeSignature,
    ← signature.throws.mapM place.referenceType⟩

def fieldType (type : FieldType) : m JavaType :=
  match type.element with
  | .base base => return (JavaType.classRef (ClassRef.ofBase base)).arrayOf type.dimensions
  | .object internalName =>
    return (JavaType.classRef (← place.classRef (binaryOfInternal internalName))).arrayOf
      type.dimensions

/-- An array is resolved as its component is, with one dimension more. -/
theorem fieldType_succ [LawfulMonad m] (dimensions : Nat) (element : ElementType) :
    place.fieldType ⟨dimensions + 1, element⟩ =
      (fun component => component.arrayOf 1) <$> place.fieldType ⟨dimensions, element⟩ := by
  have oneMore (reference : ClassRef) : (JavaType.classRef reference).arrayOf (dimensions + 1) =
      ((JavaType.classRef reference).arrayOf dimensions).arrayOf 1 := by
    cases dimensions with
    | zero => rfl
    | succ dimensions => rfl
  cases element <;> simp [fieldType, oneMore]

/-- The types of a method without a signature, by its descriptor. -/
def erasedMethodTypes (descriptor : MethodDescriptor) : m MethodTypes :=
  return ⟨← descriptor.parameters.mapM place.fieldType,
    ← descriptor.returnType.mapM place.fieldType, []⟩

end Surroundings

/-- The surroundings of a place whose visible scopes are `chain`, where the known
classes are fixed and nothing is ever loaded. -/
def Surroundings.ofPool (isKnown : String → Bool) (store : TypeStore) (chain : ScopeChain) :
    Surroundings Id where
  originOf name := if isKnown name then .imported else .unresolved
  declaringScope name := chain.resolve store name

end JvmGenerics
