import JvmGenerics.Proofs.Import.Published

/-!
# Comparing results

The types of a class follow from its data, from its lexical chain and from the table. So
if two results answer the questions of resolution alike, the types that they give to a
class are alike.
-/

namespace JvmGenerics

/-- The types of the supertypes of a class. -/
def Supertypes.all (types : Supertypes) : List JavaType :=
  types.superclass.toList ++ types.interfaces

/-- The types of a method. -/
def MethodTypes.all (types : MethodTypes) : List JavaType :=
  types.parameters ++ (types.returnType.toList ++ types.throws)

/-- The bounds and the types of an imported method. -/
def ImportedMethod.allTypes (imported : Imported) (method : ImportedMethod) : List JavaType :=
  (imported.parameters method.scope).flatMap TypeParameter.bounds ++ method.types.all

/-- The bounds and the supertypes of an imported class, and the types of its methods. -/
def ImportedClass.allTypes (imported : Imported) (published : ImportedClass) : List JavaType :=
  (imported.parameters published.scope).flatMap TypeParameter.bounds ++
    published.supertypes.all ++
      published.methods.flatMap fun method => method.allTypes imported

section Relations

variable {origins : String → Origin → Origin → Prop}
variable {scopes : String → Option ScopeId → Option ScopeId → Prop}

theorem Supertypes.Alike.all {first second : Supertypes}
    (alike : first.Alike origins scopes second) :
    List.Forall₂ (JavaType.Alike origins scopes) first.all second.all :=
  List.rel_append (forall₂_toList alike.superclass) alike.interfaces

theorem MethodTypes.Alike.all {first second : MethodTypes}
    (alike : first.Alike origins scopes second) :
    List.Forall₂ (JavaType.Alike origins scopes) first.all second.all :=
  List.rel_append alike.parameters
    (List.rel_append (forall₂_toList alike.returnType) alike.throws)

theorem bounds_alike_of_parameters {firsts seconds : List TypeParameter}
    (alike : List.Forall₂ (TypeParameter.Alike origins scopes) firsts seconds) :
    List.Forall₂ (JavaType.Alike origins scopes) (firsts.flatMap TypeParameter.bounds)
      (seconds.flatMap TypeParameter.bounds) :=
  List.rel_flatMap alike fun _ _ parameter => parameter.bounds

end Relations

namespace Imported

section Relations

variable (origins : String → Origin → Origin → Prop)
variable (scopes : String → Option ScopeId → Option ScopeId → Prop)
variable (first second : Imported)

/-- A method in two results that give it alike bounds and types. -/
structure AlikeMethod (method other : ImportedMethod) : Prop where
  parameters : List.Forall₂ (TypeParameter.Alike origins scopes)
    (first.parameters method.scope) (second.parameters other.scope)
  types : method.types.Alike origins scopes other.types

/-- A class in two results that give it and its methods alike bounds and types. -/
structure AlikeClass (published other : ImportedClass) : Prop where
  parameters : List.Forall₂ (TypeParameter.Alike origins scopes)
    (first.parameters published.scope) (second.parameters other.scope)
  supertypes : published.supertypes.Alike origins scopes other.supertypes
  methods : List.Forall₂ (first.AlikeMethod origins scopes second) published.methods
    other.methods

end Relations

variable {origins : String → Origin → Origin → Prop}
variable {scopes : String → Option ScopeId → Option ScopeId → Prop}
variable {first second : Imported}

theorem AlikeMethod.allTypes {method other : ImportedMethod}
    (alike : first.AlikeMethod origins scopes second method other) :
    List.Forall₂ (JavaType.Alike origins scopes) (method.allTypes first)
      (other.allTypes second) :=
  List.rel_append (bounds_alike_of_parameters alike.parameters) alike.types.all

theorem AlikeClass.allTypes {published other : ImportedClass}
    (alike : first.AlikeClass origins scopes second published other) :
    List.Forall₂ (JavaType.Alike origins scopes) (published.allTypes first)
      (other.allTypes second) :=
  List.rel_append
    (List.rel_append (bounds_alike_of_parameters alike.parameters) alike.supertypes.all)
    (List.rel_flatMap alike.methods fun _ _ method => method.allTypes)

end Imported

namespace Surroundings

variable (place : Surroundings Id)

/-- The erased supertypes are all that the types of a class show of it, apart from its
signature. -/
theorem supertypesOf_congr {info other : ClassInfo} (superclass : other.superclass = info.superclass)
    (interfaces : other.interfaces = info.interfaces) :
    place.supertypesOf other = place.supertypesOf info := by
  funext kept
  cases kept with
  | some signature => rfl
  | none => rw [supertypesOf, supertypesOf, superclass, interfaces]

/-- The descriptor is all that the types of a method show of it, apart from its
signature. -/
theorem methodTypesOf_congr {info other : MethodInfo} (key : other.key = info.key) :
    place.methodTypesOf other = place.methodTypesOf info := by
  funext kept
  cases kept with
  | some signature => rfl
  | none => simp only [methodTypesOf, key]

end Surroundings

namespace Imported

variable {origins : String → Origin → Origin → Prop}
variable {scopes : String → Option ScopeId → Option ScopeId → Prop}
variable {first second : Imported} {chain otherChain : ScopeChain}

/-- Two results that answer alike in two places. -/
structure AlikeIn (origins : String → Origin → Origin → Prop)
    (scopes : String → Option ScopeId → Option ScopeId → Prop) (first second : Imported)
    (chain otherChain : ScopeChain) : Prop where
  origin : ∀ name, origins name (first.originOf name) (second.originOf name)
  scope : ∀ name, scopes name (chain.resolve first.store name)
    (otherChain.resolve second.store name)

theorem AlikeIn.agreesOn (alike : AlikeIn origins scopes first second chain otherChain)
    (question : Question) :
    Surroundings.AgreesOn origins scopes (first.view chain) (second.view otherChain)
      question := by
  cases question with
  | origin name => exact alike.origin name
  | scope name => exact alike.scope name

/-- What a declared method is to have in common with another one to get alike types. -/
structure MethodPair (origins : String → Origin → Origin → Prop)
    (scopes : String → Option ScopeId → Option ScopeId → Prop) (first second : Imported)
    (chain otherChain : ScopeChain) (method other : DeclaredMethod) : Prop where
  key : other.info.key = method.info.key
  signature? : other.generics.signature? = method.generics.signature?
  place : AlikeIn origins scopes first second (method.generics.scope.toList ++ chain)
    (other.generics.scope.toList ++ otherChain)

/-- What a declared class is to have in common with another one to get alike types. -/
structure ClassPair (origins : String → Origin → Origin → Prop)
    (scopes : String → Option ScopeId → Option ScopeId → Prop) (first second : Imported)
    (chain otherChain : ScopeChain) (declared other : DeclaredClass) : Prop where
  superclass : other.info.superclass = declared.info.superclass
  interfaces : other.info.interfaces = declared.info.interfaces
  signature? : other.generics.signature? = declared.generics.signature?
  place : AlikeIn origins scopes first second chain otherChain
  methods : List.Forall₂ (MethodPair origins scopes first second chain otherChain)
    declared.methods other.methods

namespace Outcome

variable {sources others : ImportSources} {batch otherBatch : List ClassInfo}
variable {state later : ImportState}

section Tables

variable {related : DeclaredClass → DeclaredClass → Prop}
variable (outcome : first.Outcome sources batch state)
variable (otherOutcome : second.Outcome others otherBatch later)
include outcome otherOutcome

/-- What becomes of the classes of two tables, class by class. -/
theorem forall₂_classes {together : ImportedClass → ImportedClass → Prop}
    (same : List.Forall₂ related state.classes later.classes)
    (combine : ∀ {declared other published otherPublished chain otherChain},
      declared ∈ state.classes → other ∈ later.classes → related declared other →
        state.Resolved sources batch chain declared published →
          later.Resolved others otherBatch otherChain other otherPublished →
            together published otherPublished) :
    List.Forall₂ together first.classes second.classes := by
  refine (forall₂_through same outcome.resolved_mem otherOutcome.resolved_mem).imp
    fun published otherPublished found => ?_
  obtain ⟨declared, other, same, ⟨member, chain, resolved⟩, otherMember, otherChain,
    otherResolved⟩ := found
  exact combine member otherMember same resolved otherResolved

/-- What becomes of the classes of one name in two tables. -/
theorem rel_classes {together : ImportedClass → ImportedClass → Prop} {name : String}
    (same : Option.Rel related (state.class? name) (later.class? name))
    (combine : ∀ {declared other published otherPublished chain otherChain},
      declared ∈ state.classes → other ∈ later.classes → related declared other →
        state.Resolved sources batch chain declared published →
          later.Resolved others otherBatch otherChain other otherPublished →
            together published otherPublished) :
    Option.Rel together (first.class? name) (second.class? name) := by
  have found := rel_through same (outcome.class?_related name) (otherOutcome.class?_related name)
  generalize first.class? name = published, second.class? name = otherPublished at found
  cases found with
  | none => exact .none
  | some found =>
    obtain ⟨declared, other, same, ⟨member, chain, resolved⟩, otherMember, otherChain,
      otherResolved⟩ := found
    exact .some (combine member otherMember same resolved otherResolved)

/-- The origins that two tables give to a name. -/
theorem originOf_through (values : Origin → Origin → Prop) {name : String}
    (same : Option.Rel related (state.class? name) (later.class? name))
    (unresolved : values .unresolved .unresolved)
    (agree : ∀ declared other, related declared other → values declared.origin other.origin) :
    values (first.originOf name) (second.originOf name) := by
  rw [outcome.originOf_eq_class?, otherOutcome.originOf_eq_class?]
  generalize state.class? name = declared, later.class? name = other at same
  cases same with
  | none => exact unresolved
  | some same => exact agree _ _ same

end Tables

variable {declared other : DeclaredClass} {published otherPublished : ImportedClass}
variable (primitive : ∀ name, origins name .primitive .primitive)
variable (outcome : first.Outcome sources batch state)
variable (otherOutcome : second.Outcome others otherBatch later)
variable (member : declared ∈ state.classes) (otherMember : other ∈ later.classes)
variable (resolved : state.Resolved sources batch chain declared published)
variable (otherResolved : later.Resolved others otherBatch otherChain other otherPublished)
include primitive outcome otherOutcome member otherMember resolved otherResolved

theorem alikeMethod {method otherMethod : DeclaredMethod} (own : method ∈ declared.methods)
    (otherOwn : otherMethod ∈ other.methods)
    (pair : MethodPair origins scopes first second chain otherChain method otherMethod) :
    first.AlikeMethod origins scopes second
      (sources.resolvedMethod batch state.store chain method)
      (others.resolvedMethod otherBatch later.store otherChain otherMethod) := by
  have resolvedIn := outcome.methodResolvedIn member resolved own
  have otherResolvedIn := otherOutcome.methodResolvedIn otherMember otherResolved otherOwn
  have same : (others.resolvedMethod otherBatch later.store otherChain otherMethod).signature? =
      (sources.resolvedMethod batch state.store chain method).signature? := by
    rw [outcome.signature?_method_eq member own, pair.signature?.symm]
    exact otherOutcome.signature?_method_eq otherMember otherOwn
  constructor
  · rw [resolvedIn.parameters, otherResolvedIn.parameters, same]
    exact Surroundings.parametersOf_alike primitive _ fun question _ =>
      pair.place.agreesOn question
  · have erased := Surroundings.methodTypesOf_congr
      (second.view (otherMethod.generics.scope.toList ++ otherChain)) pair.key
    rw [resolvedIn.types, otherResolvedIn.types, same]
    simp only [ImportSources.resolvedMethod, erased]
    exact Surroundings.methodTypesOf_alike primitive _ _ fun question _ =>
      pair.place.agreesOn question

/-- Two results that answer alike give alike types to a class. -/
theorem alikeClass
    (pair : ClassPair origins scopes first second chain otherChain declared other) :
    first.AlikeClass origins scopes second published otherPublished := by
  have resolvedIn := outcome.resolvedIn member resolved
  have otherResolvedIn := otherOutcome.resolvedIn otherMember otherResolved
  have same : otherPublished.signature? = published.signature? := by
    rw [outcome.signature?_eq member resolved, pair.signature?.symm]
    exact otherOutcome.signature?_eq otherMember otherResolved
  refine ⟨?_, ?_, ?_⟩
  · rw [resolvedIn.parameters, otherResolvedIn.parameters, same]
    exact Surroundings.parametersOf_alike primitive _ fun question _ =>
      pair.place.agreesOn question
  · have erased := Surroundings.supertypesOf_congr (second.view otherChain) pair.superclass
      pair.interfaces
    rw [resolvedIn.supertypes, otherResolvedIn.supertypes, same, resolved.value,
      otherResolved.value]
    simp only [ImportSources.resolvedClass, erased]
    exact Surroundings.supertypesOf_alike primitive _ _ fun question _ =>
      pair.place.agreesOn question
  · rw [resolved.value, otherResolved.value]
    refine forall₂_map_iff.mpr ?_
    exact forall₂_of_forall_mem pair.methods (fun method own => own) (fun method own => own)
      fun method otherMethod own otherOwn same => outcome.alikeMethod primitive otherOutcome
        member otherMember resolved otherResolved own otherOwn same

end Outcome

end Imported

end JvmGenerics
