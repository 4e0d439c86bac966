import JvmGenerics.BaseType
import JvmGenerics.Names

/-!
# Resolved types

A resolved type names classes by binary name, with a note on where the class was
found, and type variables by the scope that declares them. A variable never
holds its bounds: those are kept by the scope, so types stay finite trees even
where bounds refer to each other.

Arrays have one form only. An array of a concrete class is that class with more
dimensions, and every other array counts all its dimensions over an element that
is no array; `JavaType.arrayOf` builds them so.
-/

namespace JvmGenerics

/-- The implicit bound of a type parameter that declares none. -/
def objectName : String := "java.lang.Object"

/-- The number of a scope of type parameters within its store. -/
abbrev ScopeId := Nat

/-- Where a class reference was resolved from. -/
inductive Origin
  | primitive
  | imported
  | classpath
  | unresolved
deriving DecidableEq

/-- A class without type arguments, possibly as an array of it. -/
structure ClassRef where
  name : String
  dimensions : Nat
  origin : Origin
deriving DecidableEq

/-- A use of a type parameter. A variable without a scope is a stub: no visible
scope declares its name. -/
structure TypeVariable where
  name : String
  scope : Option ScopeId
deriving DecidableEq

/-- A resolved type, or a type argument. -/
inductive JavaType
  | classRef (reference : ClassRef)
  | parameterized (raw : ClassRef) (arguments : List JavaType)
  | typeVariable (reference : TypeVariable)
  | wildcard (upper lower : List JavaType)
  | genericArray (element : JavaType) (dimensions : Nat)

namespace ClassRef

def ofBase (type : BaseType) : ClassRef :=
  ⟨type.keyword, 0, .primitive⟩

def isArray (reference : ClassRef) : Bool :=
  reference.dimensions != 0

def isPrimitive (reference : ClassRef) : Bool :=
  reference.origin == .primitive

end ClassRef

namespace TypeVariable

def isStub (reference : TypeVariable) : Bool :=
  reference.scope.isNone

end TypeVariable

namespace JavaType

/-- A type with more array dimensions. Arrays of concrete classes and nested
arrays are merged, so the way in which an array is built does not show. -/
def arrayOf (component : JavaType) (dimensions : Nat) : JavaType :=
  if dimensions = 0 then component
  else match component with
    | classRef reference =>
      classRef { reference with dimensions := reference.dimensions + dimensions }
    | genericArray element inner => genericArray element (inner + dimensions)
    | element => genericArray element dimensions

/-- The component of an array with some element: the array with one dimension less. -/
def componentOf (element : JavaType) (dimensions : Nat) : JavaType :=
  if dimensions = 1 then element else genericArray element (dimensions - 1)

mutual

def containsStub : JavaType → Bool
  | classRef _ => false
  | parameterized _ arguments => anyContainsStub arguments
  | typeVariable reference => reference.isStub
  | wildcard upper lower => anyContainsStub upper || anyContainsStub lower
  | genericArray element _ => element.containsStub
termination_by structural type => type

def anyContainsStub : List JavaType → Bool
  | [] => false
  | type :: rest => type.containsStub || anyContainsStub rest
termination_by structural types => types

end

mutual

def same : JavaType → JavaType → Bool
  | classRef first, classRef second => first = second
  | parameterized raw arguments, parameterized otherRaw otherArguments =>
    raw = otherRaw && sameEach arguments otherArguments
  | typeVariable first, typeVariable second => first = second
  | wildcard upper lower, wildcard otherUpper otherLower =>
    sameEach upper otherUpper && sameEach lower otherLower
  | genericArray element dimensions, genericArray otherElement otherDimensions =>
    same element otherElement && dimensions = otherDimensions
  | _, _ => false
termination_by structural type => type

def sameEach : List JavaType → List JavaType → Bool
  | [], [] => true
  | first :: firsts, second :: seconds => same first second && sameEach firsts seconds
  | _, _ => false
termination_by structural types => types

end

mutual

theorem same_iff : ∀ first second : JavaType, same first second = true ↔ first = second
  | classRef _, second => by cases second <;> simp [same]
  | parameterized _ arguments, second => by
    cases second <;> simp [same, sameEach_iff arguments]
  | typeVariable _, second => by cases second <;> simp [same]
  | wildcard upper lower, second => by
    cases second <;> simp [same, sameEach_iff upper, sameEach_iff lower]
  | genericArray element _, second => by cases second <;> simp [same, same_iff element]
termination_by structural first => first

theorem sameEach_iff :
    ∀ firsts seconds : List JavaType, sameEach firsts seconds = true ↔ firsts = seconds
  | [], seconds => by cases seconds <;> simp [sameEach]
  | first :: firsts, seconds => by
    cases seconds <;> simp [sameEach, same_iff first, sameEach_iff firsts]
termination_by structural firsts => firsts

end

instance : DecidableEq JavaType := fun first second =>
  decidable_of_iff (same first second = true) (same_iff first second)

end JavaType

end JvmGenerics
