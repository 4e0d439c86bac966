import JvmGenerics.Proofs.Import.Comparison

/-!
# Other numbers

Two imports may number the scopes of the same classes in different ways. A scope is then
known by its owner, and resolution in chains of corresponding scopes yields types that
differ in the numbers only.
-/

namespace JvmGenerics

/-- Scopes of two stores that have the same owner and parameters of the same names. -/
def TypeStore.Corresponds (first second : TypeStore) (scope other : ScopeId) : Prop :=
  ∃ found another, first.scope? scope = some found ∧ second.scope? other = some another ∧
    found.owner = another.owner ∧ found.names = another.names

namespace Imported

variable (first second : Imported)

/-- Scopes of two results, if there are any, that correspond to each other. -/
abbrev SameScope : Option ScopeId → Option ScopeId → Prop :=
  Option.Rel (first.store.Corresponds second.store)

/-- A method in two results. All that may differ are the numbers of the scopes. -/
structure SameMethod (method other : ImportedMethod) : Prop where
  info : method.info = other.info
  scope : first.SameScope second method.scope other.scope
  parameters : List.Forall₂ (TypeParameter.Alike (fun _ => Eq) fun _ => first.SameScope second)
    (first.parameters method.scope) (second.parameters other.scope)
  types : method.types.Alike (fun _ => Eq) (fun _ => first.SameScope second) other.types

/-- A class in two results. All that may differ are the numbers of the scopes. -/
structure SameClass (published other : ImportedClass) : Prop where
  info : published.info = other.info
  origin : published.origin = other.origin
  scope : first.SameScope second published.scope other.scope
  parameters : List.Forall₂ (TypeParameter.Alike (fun _ => Eq) fun _ => first.SameScope second)
    (first.parameters published.scope) (second.parameters other.scope)
  supertypes : published.supertypes.Alike (fun _ => Eq) (fun _ => first.SameScope second)
    other.supertypes
  methods : List.Forall₂ (first.SameMethod second) published.methods other.methods

end Imported

namespace TypeStore

variable {first second : TypeStore}

theorem corresponds_of_mem {header other : ScopeHeader} (listed : header ∈ first.headers)
    (otherListed : other ∈ second.headers) (owner : header.owner = other.owner)
    (names : header.names = other.names) : first.Corresponds second header.scope other.scope := by
  obtain ⟨found, present, ownOwner, ownNames⟩ := mem_headers.mp listed
  obtain ⟨another, otherPresent, otherOwner, otherNames⟩ := mem_headers.mp otherListed
  exact ⟨found, another, present, otherPresent, ownOwner.trans (owner.trans otherOwner.symm),
    ownNames.trans (names.trans otherNames.symm)⟩

theorem resolve_corresponds {chain otherChain : ScopeChain}
    (chains : List.Forall₂ (first.Corresponds second) chain otherChain) (name : String) :
    Option.Rel (first.Corresponds second) (chain.resolve first name)
      (otherChain.resolve second name) := by
  refine rel_find? chains fun scope other same => ?_
  obtain ⟨found, another, present, otherPresent, -, names⟩ := same
  rw [present, otherPresent, Option.any_some, Option.any_some, Bool.eq_iff_iff,
    Scope.declares_iff, Scope.declares_iff, names]

end TypeStore

/-- What the declaration of a class at two moments has in common. -/
structure DeclaredClass.Corresponds (first second : TypeStore) (declared other : DeclaredClass) :
    Prop where
  info : declared.info = other.info
  origin : declared.origin = other.origin
  scope : Option.Rel (first.Corresponds second) declared.generics.scope other.generics.scope
  methods : List.Forall₂ (fun method otherMethod => method.info = otherMethod.info ∧
    Option.Rel (first.Corresponds second) method.generics.scope otherMethod.generics.scope)
      declared.methods other.methods

section Headers

variable {first second : TypeStore}

theorem ClassGenerics.rel_scope_ofVerdict (className : String) {next other : ScopeId}
    {verdict : Verdict Signature.ClassSignature}
    (listed : ∀ header ∈ (ofVerdict next verdict).header? className, header ∈ first.headers)
    (otherListed : ∀ header ∈ (ofVerdict other verdict).header? className,
      header ∈ second.headers) :
    Option.Rel (first.Corresponds second) (ofVerdict next verdict).scope
      (ofVerdict other verdict).scope := by
  have isSome : (ofVerdict next verdict).scope.isSome = (ofVerdict other verdict).scope.isSome := by
    cases verdict <;> rfl
  have signature? : (ofVerdict next verdict).signature? = (ofVerdict other verdict).signature? := by
    cases verdict <;> rfl
  refine rel_of_isSome isSome fun scope otherScope own otherOwn => ?_
  have member := listed _ (Option.map_eq_some_iff.mpr ⟨scope, own, rfl⟩)
  have otherMember := otherListed _ (Option.map_eq_some_iff.mpr ⟨otherScope, otherOwn, rfl⟩)
  rw [signature?] at member
  exact TypeStore.corresponds_of_mem member otherMember rfl rfl

theorem DeclaredMethod.rel_scope {className : String} {method other : DeclaredMethod}
    (key : method.info.key = other.info.key)
    (signature? : method.generics.signature? = other.generics.signature?)
    (isSome : method.generics.scope.isSome = other.generics.scope.isSome)
    (listed : ∀ header ∈ method.header? className, header ∈ first.headers)
    (otherListed : ∀ header ∈ other.header? className, header ∈ second.headers) :
    Option.Rel (first.Corresponds second) method.generics.scope other.generics.scope := by
  refine rel_of_isSome isSome fun scope otherScope own otherOwn => ?_
  have member := listed _ (Option.map_eq_some_iff.mpr ⟨scope, own, rfl⟩)
  have otherMember := otherListed _ (Option.map_eq_some_iff.mpr ⟨otherScope, otherOwn, rfl⟩)
  rw [key, signature?] at member
  exact TypeStore.corresponds_of_mem member otherMember rfl rfl

end Headers

/-- A class that was declared at two moments has corresponding scopes. -/
theorem ClassInfo.corresponds_declaredAt {first second : TypeStore} {info : ClassInfo}
    {origin : Origin} {next other : ScopeId}
    (listed : (info.declaredAt origin next).headers ⊆ first.headers)
    (otherListed : (info.declaredAt origin other).headers ⊆ second.headers) :
    (info.declaredAt origin next).Corresponds first second (info.declaredAt origin other) where
  info := rfl
  origin := rfl
  scope := ClassGenerics.rel_scope_ofVerdict info.name
    (fun _ own => listed (List.mem_append_left _ (Option.mem_toList.mpr own)))
    fun _ own => otherListed (List.mem_append_left _ (Option.mem_toList.mpr own))
  methods := forall₂_of_forall_mem (DeclaredMethod.numberEach_similar _ _ info.methodVerdicts)
    (fun method (member : method ∈ (info.declaredAt origin next).methods) => member)
    (fun method (member : method ∈ (info.declaredAt origin other).methods) => member)
    fun _ _ member otherMember similar => ⟨similar.info, DeclaredMethod.rel_scope
      (congrArg MethodInfo.key similar.info) similar.signature? similar.scope
      (fun _ own => listed (DeclaredClass.mem_headers_of_method member own))
      fun _ own => otherListed (DeclaredClass.mem_headers_of_method otherMember own)⟩

namespace DeclaredClass.Corresponds

variable {first second : TypeStore} {declared other : DeclaredClass}

theorem outline (same : declared.Corresponds first second other) :
    declared.outline.Related (first.Corresponds second) other.outline where
  name := congrArg ClassInfo.name same.info
  enclosing := congrArg ClassInfo.enclosing same.info
  scope := same.scope
  methodScopes := DeclaredClass.methodScopes_related <|
    same.methods.imp fun _ _ related => ⟨congrArg MethodInfo.key related.1.symm, related.2⟩

end DeclaredClass.Corresponds

/-- A class of two tables stands in both as it was declared. -/
theorem ImportState.WellFormed.corresponds {state later : ImportState}
    {reported otherReported : List Diagnostic} (wellFormed : state.WellFormed reported)
    (otherWellFormed : later.WellFormed otherReported) {declared other : DeclaredClass}
    (member : declared ∈ state.classes) (otherMember : other ∈ later.classes)
    (origin : declared.origin = other.origin) (info : declared.info = other.info) :
    declared.Corresponds state.store later.store other := by
  have headers : declared.headers ⊆ state.store.headers :=
    fun _ own => wellFormed.mem_headers member own
  have otherHeaders : other.headers ⊆ later.store.headers :=
    fun _ own => otherWellFormed.mem_headers otherMember own
  obtain ⟨next, shape⟩ := wellFormed.declared declared member
  obtain ⟨otherNext, otherShape⟩ := otherWellFormed.declared other otherMember
  rw [← origin, ← info] at otherShape
  rw [shape] at headers ⊢
  rw [otherShape] at otherHeaders ⊢
  exact ClassInfo.corresponds_declaredAt headers otherHeaders

/-- What is left of the signatures of a class does not depend on the moment. -/
theorem ImportState.WellFormed.signatures_eq {state later : ImportState}
    {reported otherReported : List Diagnostic} (wellFormed : state.WellFormed reported)
    (otherWellFormed : later.WellFormed otherReported) {declared other : DeclaredClass}
    (member : declared ∈ state.classes) (otherMember : other ∈ later.classes)
    (info : declared.info = other.info) :
    other.generics.signature? = declared.generics.signature? ∧
      List.Forall₂ DeclaredMethod.Similar declared.methods other.methods := by
  obtain ⟨next, shape⟩ := wellFormed.declared declared member
  obtain ⟨otherNext, otherShape⟩ := otherWellFormed.declared other otherMember
  rw [shape, otherShape, ← info, ClassInfo.signature?_declaredAt, ClassInfo.signature?_declaredAt]
  exact ⟨rfl, DeclaredMethod.numberEach_similar _ _ declared.info.methodVerdicts⟩

/-- A class of two tables gets the same types, up to the numbers of the scopes, if all names
have the same origins and its chains correspond to each other. -/
theorem Imported.Outcome.sameClass {sources others : ImportSources}
    {batch otherBatch : List ClassInfo} {first second : Imported} {state later : ImportState}
    {declared other : DeclaredClass} {published otherPublished : ImportedClass}
    {chain otherChain : ScopeChain} (outcome : first.Outcome sources batch state)
    (otherOutcome : second.Outcome others otherBatch later) (member : declared ∈ state.classes)
    (otherMember : other ∈ later.classes)
    (resolved : state.Resolved sources batch chain declared published)
    (otherResolved : later.Resolved others otherBatch otherChain other otherPublished)
    (origins : ∀ name, first.originOf name = second.originOf name)
    (same : declared.Corresponds first.store second.store other)
    (chains : List.Forall₂ (first.store.Corresponds second.store) chain otherChain) :
    first.SameClass second published otherPublished := by
  have ⟨signature?, similar⟩ := outcome.sound.signatures_eq otherOutcome.sound.toWellFormed member
    otherMember same.info
  have pair : ClassPair (fun _ => Eq) (fun _ => first.SameScope second) first second chain
      otherChain declared other := by
    refine ⟨congrArg ClassInfo.superclass same.info.symm,
      congrArg ClassInfo.interfaces same.info.symm, signature?,
      ⟨origins, TypeStore.resolve_corresponds chains⟩, ?_⟩
    refine List.Forall₂.mp (fun method otherMethod similar same => ?_) similar same.methods
    exact ⟨congrArg MethodInfo.key same.1.symm, similar.signature?.symm, origins,
      TypeStore.resolve_corresponds (List.rel_append (forall₂_toList same.2) chains)⟩
  have alike := outcome.alikeClass (fun _ => rfl) otherOutcome member otherMember resolved
    otherResolved pair
  obtain ⟨parameters, supertypes, methods⟩ := alike
  rw [resolved.value, otherResolved.value] at parameters supertypes methods ⊢
  refine ⟨same.info, same.origin, same.scope, parameters, supertypes, ?_⟩
  refine forall₂_map_iff.mpr (List.Forall₂.mp (fun method otherMethod same alike => ?_)
    same.methods (forall₂_map_iff.mp methods))
  exact ⟨same.1, same.2, alike.parameters, alike.types⟩

end JvmGenerics
