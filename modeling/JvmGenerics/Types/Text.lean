import JvmGenerics.Types.JavaType

/-!
# Texts of resolved types

A type has three texts: its source form with all type arguments, its canonical
name by which bounds are matched, and its signature, which the grammar of
signatures reads again.
-/

namespace JvmGenerics

def arrayMarkers (dimensions : Nat) : String :=
  String.join (List.replicate dimensions "[]")

def ClassRef.arrayName (reference : ClassRef) : String :=
  reference.name ++ arrayMarkers reference.dimensions

/-- The signature of a class. A primitive type is its letter; every other class,
also one that merely bears the name of a primitive type, is written by name. -/
def ClassRef.signature (reference : ClassRef) : List Char :=
  let element :=
    match if reference.isPrimitive then BaseType.ofKeyword? reference.name else none with
    | some type => [type.letter]
    | none => 'L' :: (internalOfBinary reference.name).toList ++ [';']
  List.replicate reference.dimensions '[' ++ element

namespace JavaType

/-- A bound of a wildcard with the word before it; only the first bound is written. -/
def firstBound (word : String) : List String → String
  | [] => ""
  | first :: _ => word ++ first

mutual

def display : JavaType → String
  | classRef reference => reference.arrayName
  | parameterized raw arguments =>
    match displayEach arguments with
    | [] => raw.name
    | texts => raw.name ++ "<" ++ ", ".intercalate texts ++ ">"
  | typeVariable reference => reference.name
  | wildcard upper lower =>
    "?" ++ firstBound " extends " (displayEach upper) ++ firstBound " super " (displayEach lower)
  | genericArray element dimensions => element.display ++ arrayMarkers dimensions
termination_by structural type => type

def displayEach : List JavaType → List String
  | [] => []
  | type :: rest => type.display :: displayEach rest
termination_by structural types => types

end

mutual

/-- The canonical name: of a class or a parameterized type the name of the class,
of a variable its own name, and of a generic array its source form. -/
def name : JavaType → String
  | classRef reference => reference.arrayName
  | parameterized raw _ => raw.arrayName
  | typeVariable reference => reference.name
  | wildcard upper lower =>
    match nameEach upper, nameEach lower with
    | bound :: _, _ => "? extends " ++ bound
    | [], bound :: _ => "? super " ++ bound
    | [], [] => "?"
  | genericArray element dimensions => element.display ++ arrayMarkers dimensions
termination_by structural type => type

def nameEach : List JavaType → List String
  | [] => []
  | type :: rest => type.name :: nameEach rest
termination_by structural types => types

end

mutual

/-- The signature of the type. A wildcard is written as the type argument that it is. -/
def signature : JavaType → List Char
  | classRef reference => reference.signature
  | parameterized raw arguments =>
    let brackets := match signatureEach arguments with
      | [] => []
      | texts => '<' :: texts.flatten ++ ['>']
    'L' :: (internalOfBinary raw.name).toList ++ brackets ++ [';']
  | typeVariable reference => 'T' :: reference.name.toList ++ [';']
  | wildcard upper lower =>
    match signatureEach upper, signatureEach lower with
    | bound :: _, _ => '+' :: bound
    | [], bound :: _ => '-' :: bound
    | [], [] => ['*']
  | genericArray element dimensions => List.replicate dimensions '[' ++ element.signature
termination_by structural type => type

def signatureEach : List JavaType → List (List Char)
  | [] => []
  | type :: rest => type.signature :: signatureEach rest
termination_by structural types => types

end

end JavaType

end JvmGenerics
