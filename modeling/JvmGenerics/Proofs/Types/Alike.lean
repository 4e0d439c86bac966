import JvmGenerics.Proofs.Types.Questions
import Mathlib.Data.List.Forall2

/-!
# Types that differ in their answers only

Two types are alike if they have the same shape and the same names, and differ at
most in the origins of their classes and in the scopes of their variables, as far
as two given relations allow. Resolution of one signature in two places yields
types that are as alike as the answers of the places are.
-/

namespace JvmGenerics

section Relations

variable (origins : String → Origin → Origin → Prop)
variable (scopes : String → Option ScopeId → Option ScopeId → Prop)

def ClassRef.Alike (first second : ClassRef) : Prop :=
  first.name = second.name ∧ first.dimensions = second.dimensions ∧
    origins first.name first.origin second.origin

/-- Alike uses of a type parameter. -/
def TypeVariable.Alike (first second : TypeVariable) : Prop :=
  first.name = second.name ∧ scopes first.name first.scope second.scope

namespace JavaType

mutual

def Alike : JavaType → JavaType → Prop
  | classRef first, classRef second => first.Alike origins second
  | parameterized raw arguments, parameterized otherRaw otherArguments =>
    raw.Alike origins otherRaw ∧ AlikeEach arguments otherArguments
  | typeVariable first, typeVariable second => first.Alike scopes second
  | wildcard upper lower, wildcard otherUpper otherLower =>
    AlikeEach upper otherUpper ∧ AlikeEach lower otherLower
  | genericArray element dimensions, genericArray otherElement otherDimensions =>
    Alike element otherElement ∧ dimensions = otherDimensions
  | _, _ => False
termination_by structural type => type

/-- Lists of types that are alike one by one. -/
def AlikeEach : List JavaType → List JavaType → Prop
  | [], [] => True
  | first :: firsts, second :: seconds => Alike first second ∧ AlikeEach firsts seconds
  | _, _ => False
termination_by structural types => types

end

end JavaType

end Relations

variable {origins : String → Origin → Origin → Prop}
variable {scopes : String → Option ScopeId → Option ScopeId → Prop}

namespace JavaType

theorem alikeEach_iff {firsts seconds : List JavaType} :
    AlikeEach origins scopes firsts seconds ↔
      List.Forall₂ (Alike origins scopes) firsts seconds := by
  induction firsts generalizing seconds with
  | nil => cases seconds <;> simp [AlikeEach]
  | cons first firsts ih => cases seconds <;> simp [AlikeEach, ih]

theorem Alike.arrayOf {first second : JavaType} (alike : first.Alike origins scopes second)
    (dimensions : Nat) :
    (first.arrayOf dimensions).Alike origins scopes (second.arrayOf dimensions) := by
  unfold JavaType.arrayOf
  split
  · exact alike
  · cases first <;> cases second <;> grind [Alike, ClassRef.Alike]

mutual

/-- The uses of type parameters in a type. -/
def occurrences : JavaType → List TypeVariable
  | classRef _ => []
  | parameterized _ arguments => occurrencesEach arguments
  | typeVariable reference => [reference]
  | wildcard upper lower => occurrencesEach upper ++ occurrencesEach lower
  | genericArray element _ => element.occurrences
termination_by structural type => type

/-- The uses of type parameters in some types. -/
def occurrencesEach : List JavaType → List TypeVariable
  | [] => []
  | type :: rest => type.occurrences ++ occurrencesEach rest
termination_by structural types => types

end

theorem occurrencesEach_eq_flatMap (types : List JavaType) :
    occurrencesEach types = types.flatMap occurrences := by
  induction types with
  | nil => rfl
  | cons type rest ih => simp [occurrencesEach, ih]

mutual

theorem Alike.occurrences_related : ∀ first second : JavaType,
    first.Alike origins scopes second →
      ∀ reference ∈ first.occurrences, ∃ scope, scopes reference.name reference.scope scope
  | classRef _, _, _ => by simp [occurrences]
  | parameterized _ arguments, parameterized _ others, alike =>
    AlikeEach.occurrences_related arguments others alike.2
  | typeVariable reference, typeVariable other, alike => by
    simpa [occurrences] using ⟨other.scope, alike.2⟩
  | wildcard upper lower, wildcard otherUpper otherLower, alike => by
    simp only [occurrences, List.forall_mem_append]
    exact ⟨AlikeEach.occurrences_related upper otherUpper alike.1,
      AlikeEach.occurrences_related lower otherLower alike.2⟩
  | genericArray element _, genericArray other _, alike =>
    Alike.occurrences_related element other alike.1
termination_by structural first => first

theorem AlikeEach.occurrences_related : ∀ firsts seconds : List JavaType,
    AlikeEach origins scopes firsts seconds →
      ∀ reference ∈ occurrencesEach firsts,
        ∃ scope, scopes reference.name reference.scope scope
  | [], _, _ => by simp [occurrencesEach]
  | first :: firsts, second :: seconds, alike => by
    simp only [occurrencesEach, List.forall_mem_append]
    exact ⟨Alike.occurrences_related first second alike.1,
      AlikeEach.occurrences_related firsts seconds alike.2⟩
termination_by structural firsts => firsts

end

mutual

/-- The uses of classes in a type. -/
def references : JavaType → List ClassRef
  | classRef reference => [reference]
  | parameterized raw arguments => raw :: referencesEach arguments
  | typeVariable _ => []
  | wildcard upper lower => referencesEach upper ++ referencesEach lower
  | genericArray element _ => element.references
termination_by structural type => type

/-- The uses of classes in some types. -/
def referencesEach : List JavaType → List ClassRef
  | [] => []
  | type :: rest => type.references ++ referencesEach rest
termination_by structural types => types

end

theorem referencesEach_eq_flatMap (types : List JavaType) :
    referencesEach types = types.flatMap references := by
  induction types with
  | nil => rfl
  | cons type rest ih => simp [referencesEach, ih]

mutual

theorem Alike.references_related : ∀ first second : JavaType,
    first.Alike origins scopes second →
      ∀ reference ∈ first.references, ∃ origin, origins reference.name reference.origin origin
  | classRef reference, classRef other, alike => by
    simpa [references] using ⟨other.origin, alike.2.2⟩
  | parameterized raw arguments, parameterized other others, alike => by
    simp only [references, List.forall_mem_cons]
    exact ⟨⟨other.origin, alike.1.2.2⟩,
      AlikeEach.references_related arguments others alike.2⟩
  | typeVariable _, _, _ => by simp [references]
  | wildcard upper lower, wildcard otherUpper otherLower, alike => by
    simp only [references, List.forall_mem_append]
    exact ⟨AlikeEach.references_related upper otherUpper alike.1,
      AlikeEach.references_related lower otherLower alike.2⟩
  | genericArray element _, genericArray other _, alike =>
    Alike.references_related element other alike.1
termination_by structural first => first

theorem AlikeEach.references_related : ∀ firsts seconds : List JavaType,
    AlikeEach origins scopes firsts seconds →
      ∀ reference ∈ referencesEach firsts,
        ∃ origin, origins reference.name reference.origin origin
  | [], _, _ => by simp [referencesEach]
  | first :: firsts, second :: seconds, alike => by
    simp only [referencesEach, List.forall_mem_append]
    exact ⟨Alike.references_related first second alike.1,
      AlikeEach.references_related firsts seconds alike.2⟩
termination_by structural firsts => firsts

end

mutual

/-- The same type with other origins. -/
def mapOrigins (change : Origin → Origin) : JavaType → JavaType
  | classRef reference => classRef { reference with origin := change reference.origin }
  | parameterized raw arguments =>
    parameterized { raw with origin := change raw.origin } (mapOriginsEach change arguments)
  | typeVariable reference => typeVariable reference
  | wildcard upper lower => wildcard (mapOriginsEach change upper) (mapOriginsEach change lower)
  | genericArray element dimensions => genericArray (element.mapOrigins change) dimensions
termination_by structural type => type

/-- The same types with other origins. -/
def mapOriginsEach (change : Origin → Origin) : List JavaType → List JavaType
  | [] => []
  | type :: rest => type.mapOrigins change :: mapOriginsEach change rest
termination_by structural types => types

end

theorem mapOriginsEach_eq_map (change : Origin → Origin) (types : List JavaType) :
    mapOriginsEach change types = types.map (mapOrigins change) := by
  induction types with
  | nil => rfl
  | cons type rest ih => simp [mapOriginsEach, ih]

theorem classRef_change_iff {change : Origin → Origin} {first second : ClassRef} :
    first.Alike (fun _ origin other => other = change origin) second ↔
      second = { first with origin := change first.origin } := by
  cases first
  cases second
  simp only [ClassRef.Alike, ClassRef.mk.injEq, eq_comm]

theorem typeVariable_alike_eq_iff {first second : TypeVariable} :
    first.Alike (fun _ => Eq) second ↔ second = first := by
  cases first
  cases second
  simp only [TypeVariable.Alike, TypeVariable.mk.injEq, eq_comm]

mutual

/-- A type that differs in a given change of the origins is the changed type. -/
theorem alike_change_iff {change : Origin → Origin} : ∀ first second : JavaType,
    first.Alike (fun _ origin other => other = change origin) (fun _ => Eq) second ↔
      second = first.mapOrigins change
  | classRef _, second => by
    cases second <;> simp [Alike, mapOrigins, classRef_change_iff]
  | parameterized _ arguments, second => by
    cases second <;>
      simp [Alike, mapOrigins, classRef_change_iff, alikeEach_change_iff arguments]
  | typeVariable _, second => by
    cases second <;> simp [Alike, mapOrigins, typeVariable_alike_eq_iff]
  | wildcard upper lower, second => by
    cases second <;>
      simp [Alike, mapOrigins, alikeEach_change_iff upper, alikeEach_change_iff lower]
  | genericArray element _, second => by
    cases second <;> simp [Alike, mapOrigins, alike_change_iff element, eq_comm]
termination_by structural first => first

theorem alikeEach_change_iff {change : Origin → Origin} : ∀ firsts seconds : List JavaType,
    AlikeEach (fun _ origin other => other = change origin) (fun _ => Eq) firsts seconds ↔
      seconds = mapOriginsEach change firsts
  | [], seconds => by cases seconds <;> simp [AlikeEach, mapOriginsEach]
  | first :: firsts, seconds => by
    cases seconds <;>
      simp [AlikeEach, mapOriginsEach, alike_change_iff first, alikeEach_change_iff firsts]
termination_by structural firsts => firsts

end

mutual

theorem mapOrigins_id : ∀ type : JavaType, type.mapOrigins id = type
  | classRef _ => rfl
  | parameterized _ arguments => by simp [mapOrigins, mapOriginsEach_id arguments]
  | typeVariable _ => rfl
  | wildcard upper lower => by simp [mapOrigins, mapOriginsEach_id upper, mapOriginsEach_id lower]
  | genericArray element _ => by simp [mapOrigins, mapOrigins_id element]
termination_by structural type => type

theorem mapOriginsEach_id : ∀ types : List JavaType, mapOriginsEach id types = types
  | [] => rfl
  | type :: rest => by simp [mapOriginsEach, mapOrigins_id type, mapOriginsEach_id rest]
termination_by structural types => types

end

end JavaType

namespace Surroundings

open Signature

variable {first second : Surroundings Id}

/-- Two places answer a question alike. -/
def AgreesOn (origins : String → Origin → Origin → Prop)
    (scopes : String → Option ScopeId → Option ScopeId → Prop)
    (first second : Surroundings Id) : Question → Prop
  | .origin name => origins name (first.originOf name).run (second.originOf name).run
  | .scope name => scopes name (first.declaringScope name).run (second.declaringScope name).run

theorem classRef_alike {name : String}
    (agrees : AgreesOn origins scopes first second (.origin name)) :
    (first.classRef name).run.Alike origins (second.classRef name).run :=
  ⟨rfl, rfl, agrees⟩

theorem withArguments_alike {raw other : ClassRef} {arguments others : List JavaType}
    (rawAlike : raw.Alike origins other)
    (argumentsAlike : JavaType.AlikeEach origins scopes arguments others) :
    (withArguments raw arguments).Alike origins scopes (withArguments other others) := by
  cases arguments <;> cases others <;>
    simp_all [withArguments, JavaType.Alike, JavaType.AlikeEach]

theorem withVariance_alike (variance : Variance) {type other : JavaType}
    (alike : type.Alike origins scopes other) :
    (withVariance variance type).Alike origins scopes (withVariance variance other) := by
  cases variance <;> simp [withVariance, JavaType.Alike, JavaType.AlikeEach, alike]

mutual

theorem classType_alike (primitive : ∀ name, origins name .primitive .primitive) :
    ∀ type : ClassType,
    (∀ question ∈ type.questions, AgreesOn origins scopes first second question) →
      (first.classType type).run.Alike origins scopes (second.classType type).run
  | .topLevel _ _ arguments, agrees => by
    simp only [ClassType.questions, List.forall_mem_cons] at agrees
    exact withArguments_alike (classRef_alike agrees.1)
      (typeArguments_alike primitive arguments agrees.2)
  | .member _ _ arguments, agrees => by
    simp only [ClassType.questions, List.forall_mem_cons] at agrees
    exact withArguments_alike (classRef_alike agrees.1)
      (typeArguments_alike primitive arguments agrees.2)
termination_by structural type => type

theorem referenceType_alike (primitive : ∀ name, origins name .primitive .primitive) :
    ∀ type : ReferenceType,
    (∀ question ∈ type.questions, AgreesOn origins scopes first second question) →
      (first.referenceType type).run.Alike origins scopes (second.referenceType type).run
  | .classType type, agrees => classType_alike primitive type agrees
  | .typeVariable name, agrees => ⟨rfl, agrees (.scope name) (by simp [ReferenceType.questions])⟩
  | .array dimensions component, agrees =>
    (typeSignature_alike primitive component agrees).arrayOf dimensions
termination_by structural type => type

theorem typeSignature_alike (primitive : ∀ name, origins name .primitive .primitive) :
    ∀ type : TypeSignature,
    (∀ question ∈ type.questions, AgreesOn origins scopes first second question) →
      (first.typeSignature type).run.Alike origins scopes (second.typeSignature type).run
  | .base type, _ => ⟨rfl, rfl, primitive type.keyword⟩
  | .reference type, agrees => referenceType_alike primitive type agrees
termination_by structural type => type

theorem typeArguments_alike (primitive : ∀ name, origins name .primitive .primitive) :
    ∀ arguments : List TypeArgument,
    (∀ question ∈ TypeArgument.questionsEach arguments,
      AgreesOn origins scopes first second question) →
      JavaType.AlikeEach origins scopes (first.typeArguments arguments).run
        (second.typeArguments arguments).run
  | [], _ => trivial
  | .any :: rest, agrees => ⟨⟨trivial, trivial⟩, typeArguments_alike primitive rest agrees⟩
  | .bounded variance type :: rest, agrees => by
    simp only [TypeArgument.questionsEach, List.forall_mem_append] at agrees
    exact ⟨withVariance_alike variance (referenceType_alike primitive type agrees.1),
      typeArguments_alike primitive rest agrees.2⟩
termination_by structural arguments => arguments

end

end Surroundings

end JvmGenerics
