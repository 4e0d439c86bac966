import JvmGenerics.BaseType
import JvmGenerics.Names

/-!
# Generic signatures

The syntax trees of class, method and field signatures, and their text.

A class type is a top-level class in a package, or a member of another class
type; either may carry type arguments, so that `Outer<T>.Inner<U>` keeps those
of both. Names are kept as they are written: nothing here looks a class or a
type variable up.
-/

namespace JvmGenerics.Signature

/-- How a type argument relates to the type that it gives: it is that type, an
unknown subtype of it, or an unknown supertype of it. -/
inductive Variance
  | invariant
  | covariant
  | contravariant
deriving DecidableEq

mutual

/-- A class type, without the semicolon that closes it. -/
inductive ClassType
  | topLevel (package : List String) (name : String) (arguments : List TypeArgument)
  | member (outer : ClassType) (name : String) (arguments : List TypeArgument)

/-- A type that a type variable may stand for. -/
inductive ReferenceType
  | classType (type : ClassType)
  | typeVariable (name : String)
  | array (dimensions : Nat) (component : TypeSignature)

/-- A primitive type or a reference type. -/
inductive TypeSignature
  | base (type : BaseType)
  | reference (type : ReferenceType)

/-- An unbounded wildcard, or a type with the way in which it bounds the argument. -/
inductive TypeArgument
  | any
  | bounded (variance : Variance) (type : ReferenceType)

end

/-- A declared type parameter. Only the first bound may be a class, so it is kept apart. -/
structure TypeParameter where
  name : String
  classBound : Option ReferenceType
  interfaceBounds : List ReferenceType

/-- The generic signature of a class. -/
structure ClassSignature where
  typeParameters : List TypeParameter
  superclass : ClassType
  interfaces : List ClassType

/-- The generic signature of a method; without a return type it returns nothing. -/
structure MethodSignature where
  typeParameters : List TypeParameter
  parameters : List TypeSignature
  returnType : Option TypeSignature
  throws : List ReferenceType

namespace TypeParameter

/-- Every declared bound, in the order of declaration. -/
def bounds (parameter : TypeParameter) : List ReferenceType :=
  parameter.classBound.toList ++ parameter.interfaceBounds

end TypeParameter

namespace ClassType

def arguments : ClassType → List TypeArgument
  | topLevel _ _ arguments => arguments
  | member _ _ arguments => arguments

/-- The package of the outermost class, with slashes. -/
def package : ClassType → String
  | topLevel package _ _ => "/".intercalate package
  | member outer _ _ => outer.package

/-- The classes from the outermost inwards, each with its own type arguments. -/
def segments : ClassType → List (String × List TypeArgument)
  | topLevel _ name arguments => [(name, arguments)]
  | member outer name arguments => outer.segments ++ [(name, arguments)]

/-- The internal name: slashes within the package, a dollar sign before each member. -/
def internalName : ClassType → String
  | topLevel package name _ => "/".intercalate (package ++ [name])
  | member outer name _ => outer.internalName ++ "$" ++ name

def binaryName (type : ClassType) : String :=
  binaryOfInternal type.internalName

end ClassType

def Variance.render : Variance → List Char
  | invariant => []
  | covariant => ['+']
  | contravariant => ['-']

/-- The text of a list, given the text of its entries: angle brackets around it,
and nothing at all for an empty list. -/
def bracketed {α : Type} (list : List α) (entries : List Char) : List Char :=
  match list with
  | [] => []
  | _ :: _ => '<' :: (entries ++ ['>'])

mutual

/-- The text of a class type, without its closing semicolon. -/
def ClassType.renderOpen : ClassType → List Char
  | .topLevel package name arguments =>
    'L' :: (package.flatMap (fun segment => segment.toList ++ ['/']) ++ name.toList
      ++ bracketed arguments (TypeArgument.renderEach arguments))
  | .member outer name arguments =>
    outer.renderOpen ++ '.' :: name.toList
      ++ bracketed arguments (TypeArgument.renderEach arguments)
termination_by structural type => type

def ReferenceType.render : ReferenceType → List Char
  | .classType type => type.renderOpen ++ [';']
  | .typeVariable name => 'T' :: name.toList ++ [';']
  | .array dimensions component => List.replicate dimensions '[' ++ component.render
termination_by structural type => type

def TypeSignature.render : TypeSignature → List Char
  | .base type => [type.letter]
  | .reference type => type.render
termination_by structural type => type

/-- The text of type arguments, without the angle brackets around them. -/
def TypeArgument.renderEach : List TypeArgument → List Char
  | [] => []
  | .any :: rest => '*' :: TypeArgument.renderEach rest
  | .bounded variance type :: rest =>
    variance.render ++ type.render ++ TypeArgument.renderEach rest
termination_by structural arguments => arguments

end

def ClassType.render (type : ClassType) : List Char :=
  type.renderOpen ++ [';']

/-- The text of one type parameter: a colon stands before each bound, and one
stands for the class bound even where there is none. -/
def TypeParameter.render (parameter : TypeParameter) : List Char :=
  parameter.name.toList ++ ':' :: (parameter.classBound.elim [] ReferenceType.render
    ++ parameter.interfaceBounds.flatMap fun bound => ':' :: bound.render)

def TypeParameter.renderList (parameters : List TypeParameter) : List Char :=
  bracketed parameters (parameters.flatMap TypeParameter.render)

def ClassSignature.render (signature : ClassSignature) : List Char :=
  TypeParameter.renderList signature.typeParameters ++ signature.superclass.render
    ++ signature.interfaces.flatMap ClassType.render

def MethodSignature.render (signature : MethodSignature) : List Char :=
  TypeParameter.renderList signature.typeParameters
    ++ '(' :: signature.parameters.flatMap TypeSignature.render
    ++ ')' :: signature.returnType.elim ['V'] TypeSignature.render
    ++ signature.throws.flatMap fun thrown => '^' :: thrown.render

end JvmGenerics.Signature
