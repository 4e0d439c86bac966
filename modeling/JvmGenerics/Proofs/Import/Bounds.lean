import JvmGenerics.Proofs.Import.Scoping

/-!
# Complete bounds

After an import no type parameter is left without bounds, and no bound was refused on
the way: every scope of the store belongs to one class or method of the result, whose
signature says what the bounds are.
-/

namespace JvmGenerics

/-- A type parameter has the bounds that are declared for it, resolved one by one, or
`java.lang.Object` alone where none are declared. -/
structure Surroundings.BoundsResolved (place : Surroundings Id)
    (declared : Signature.TypeParameter) (parameter : TypeParameter) : Prop where
  name : parameter.name = declared.name
  nonempty : parameter.bounds ≠ []
  explicit : declared.bounds ≠ [] →
    parameter.bounds = declared.bounds.map fun bound => (place.referenceType bound).run
  implicit : declared.bounds = [] →
    parameter.bounds = [.classRef ⟨objectName, 0, (place.originOf objectName).run⟩]

theorem Surroundings.boundsResolved_parametersOf (place : Surroundings Id)
    (parameters : List Signature.TypeParameter) :
    List.Forall₂ place.BoundsResolved parameters (place.parametersOf parameters) := by
  rw [parametersOf, List.forall₂_map_right_iff, List.forall₂_same]
  intro parameter _
  refine ⟨rfl, place.bounds_ne_nil parameter, fun some => ?_, fun none => ?_⟩
  · simp only [bounds_run]
  · simp only [bounds_run, none]

theorem DeclaredClass.holders_eq {sources : ImportSources} {batch : List ClassInfo}
    {store : TypeStore} (chain : ScopeChain) (declared : DeclaredClass) :
    (sources.resolvedClass batch store chain declared).holders =
      declared.headers.map fun header => (header.scope, header.owner) := by
  rw [ImportedClass.holders, headers, List.map_append, List.map_flatMap]
  congr 1
  · cases scope : declared.generics.scope <;>
      simp [ImportSources.resolvedClass, ClassGenerics.header?, scope]
    rfl
  · rw [ImportSources.resolvedClass, List.flatMap_map]
    refine List.flatMap_congr fun method _ => ?_
    cases scope : method.generics.scope <;>
      simp [ImportSources.resolvedMethod, DeclaredMethod.header?, scope]
    rfl

namespace Imported.Outcome

variable {sources : ImportSources} {batch : List ClassInfo} {imported : Imported}
variable {state : ImportState}

/-- The scopes of the result are those of its classes and methods, one after the other. -/
theorem holders_eq (outcome : imported.Outcome sources batch state) :
    imported.classes.flatMap ImportedClass.holders =
      imported.store.scopes.mapIdx fun scope found => (scope, found.owner) := by
  have headers : imported.classes.flatMap ImportedClass.holders =
      (state.classes.flatMap DeclaredClass.headers).map fun header =>
        (header.scope, header.owner) := by
    rw [List.map_flatMap]
    refine (flatMap_eq_of_forall₂ outcome.resolved fun declared published resolved => ?_).symm
    obtain ⟨chain, resolved⟩ := resolved
    rw [resolved.value, DeclaredClass.holders_eq]
  rw [headers, ← outcome.sound.layout, outcome.store]
  apply List.ext_getElem?
  simp [TypeStore.headers, Function.comp_def]

/-- Every scope in the last state of an import was filled in. -/
theorem bounds_ne_nil (outcome : imported.Outcome sources batch state) {found : Scope}
    (member : found ∈ imported.store.scopes) :
    ∀ parameter ∈ found.parameters, parameter.bounds ≠ [] := by
  rw [outcome.store] at member
  obtain ⟨scope, present⟩ := List.mem_iff_getElem?.mp member
  have listed : (⟨scope, found.owner, found.names⟩ : ScopeHeader) ∈ state.store.headers :=
    TypeStore.mem_headers.mpr ⟨found, present, rfl, rfl⟩
  rw [outcome.sound.layout, List.mem_flatMap] at listed
  obtain ⟨declared, inTable, own⟩ := listed
  obtain ⟨published, -, chain, resolved⟩ := exists_of_mem_right outcome.resolved.flip inTable
  have complete {owner : Owner} {place : Surroundings Id}
      {parameters : List Signature.TypeParameter}
      (filled : state.store.scope? scope = some ⟨owner, place.parametersOf parameters⟩) :
      ∀ parameter ∈ found.parameters, parameter.bounds ≠ [] := by
    obtain rfl := Option.some.inj (present.symm.trans filled)
    intro parameter listed
    obtain ⟨source, -, rfl⟩ := List.mem_map.mp listed
    exact place.bounds_ne_nil source
  simp only [DeclaredClass.headers, List.mem_append, Option.mem_toList, List.mem_flatMap,
    ClassGenerics.header?, DeclaredMethod.header?, Option.map_eq_some_iff,
    ScopeHeader.mk.injEq] at own
  rcases own with ⟨_, isClass, rfl, -⟩ | ⟨method, isMethod, _, inMethod, rfl, -⟩
  · exact complete (resolved.classScope _ isClass)
  · exact complete (resolved.methodScopes method isMethod _ inMethod)

theorem incomplete_eq_nil (outcome : imported.Outcome sources batch state) :
    imported.store.incomplete = [] := by
  rw [TypeStore.incomplete, List.flatMap_eq_nil_iff]
  intro found member
  rw [List.map_eq_nil_iff, List.filter_eq_nil_iff]
  intro parameter listed
  rw [List.isEmpty_iff]
  exact outcome.bounds_ne_nil member parameter listed

/-- A variable without bounds is a stub, and the other way round. -/
theorem boundsOf_eq_nil_iff (outcome : imported.Outcome sources batch state) {chain : ScopeChain}
    {reference : TypeVariable}
    (resolved : reference.scope = chain.resolve imported.store reference.name) :
    imported.store.boundsOf reference = [] ↔ reference.isStub = true := by
  rw [TypeStore.boundsOf, TypeVariable.isStub, Option.isNone_iff_eq_none]
  cases bound : reference.scope with
  | none => simp
  | some scope =>
    rw [bound] at resolved
    obtain ⟨found, present, named⟩ := TypeStore.declares_of_resolve resolved.symm
    obtain ⟨parameter, listed, isParameter⟩ := Scope.parameter?_of_mem named
    have nonempty := outcome.bounds_ne_nil (List.mem_of_getElem? present) parameter listed
    simpa [TypeStore.parameter?, present, isParameter] using nonempty

end Imported.Outcome

/-- No bound is ever refused, no parameter is left without bounds, and every scope of the
store is the scope of one class or method, which is its owner. The parameters of a scope
have the bounds that the signature of its owner declares, and exactly the variables that
are no stubs have bounds. -/
theorem bounds_completed (options : ImportOptions) (classpath : Classpath)
    (batch : List ClassInfo) :
    let imported := importClasses options classpath batch
    imported.defects = [] ∧ imported.store.incomplete = [] ∧
      imported.classes.flatMap ImportedClass.holders =
        (imported.store.scopes.mapIdx fun scope found => (scope, found.owner)) ∧
      (∀ published ∈ imported.classes, ∃ chain, imported.IsLexicalChain published chain ∧
        List.Forall₂ (imported.view chain).BoundsResolved
          (Signature.ClassSignature.parametersOf published.signature?)
          (imported.parameters published.scope) ∧
        ∀ method ∈ published.methods, List.Forall₂
          (imported.view (method.scope.toList ++ chain)).BoundsResolved
          (Signature.MethodSignature.parametersOf method.signature?)
          (imported.parameters method.scope)) ∧
      ∀ reference ∈ imported.occurrences,
        imported.store.boundsOf reference = [] ↔ reference.isStub = true := by
  intro imported
  obtain ⟨state, outcome⟩ := importClasses_outcome options classpath batch
  refine ⟨outcome.defects.trans outcome.sound.defects, outcome.incomplete_eq_nil,
    outcome.holders_eq, fun published member => ?_, fun reference occurs => ?_⟩
  · obtain ⟨declared, inTable, chain, resolved⟩ := outcome.exists_resolved member
    have resolvedIn := outcome.resolvedIn inTable resolved
    refine ⟨chain, outcome.isLexicalChain resolved, ?_, fun method listed => ?_⟩
    · rw [resolvedIn.parameters]
      exact Surroundings.boundsResolved_parametersOf _ _
    · rw [(resolvedIn.methods method listed).parameters]
      exact Surroundings.boundsResolved_parametersOf _ _
  · obtain ⟨published, member, occurs⟩ := List.mem_flatMap.mp occurs
    obtain ⟨declared, inTable, chain, resolved⟩ := outcome.exists_resolved member
    have resolvedIn := outcome.resolvedIn inTable resolved
    rcases List.mem_append.mp occurs with inClass | inMethods
    · exact outcome.boundsOf_eq_nil_iff (resolvedIn.scope_eq reference inClass)
    · obtain ⟨method, listed, inside⟩ := List.mem_flatMap.mp inMethods
      exact outcome.boundsOf_eq_nil_iff
        ((resolvedIn.methods method listed).scope_eq reference inside)

set_option maxRecDepth 20000 in
/-- In `Box`, the parameter `T` has the implicit bound, and `U` has bounds as well. -/
theorem bounds_completed_box :
    let imported := importClasses .standard .empty [.box]
    .box ∈ imported.classes ∧ ⟨"U", some 1⟩ ∈ imported.occurrences ∧
      (∃ chain, imported.IsLexicalChain .box chain ∧
        List.Forall₂ (imported.view chain).BoundsResolved
          (Signature.ClassSignature.parametersOf ImportedClass.box.signature?)
          (imported.parameters (some 0))) ∧
      imported.store.boundsOf ⟨"U", some 1⟩ ≠ [] := by
  have member : .box ∈ (importClasses .standard .empty [.box]).classes := by decide +kernel
  have occurs : ⟨"U", some 1⟩ ∈ (importClasses .standard .empty [.box]).occurrences := by
    decide +kernel
  obtain ⟨-, -, -, classes, occurrences⟩ := bounds_completed .standard .empty [.box]
  obtain ⟨chain, lexical, parameters, -⟩ := classes .box member
  refine ⟨member, occurs, ⟨chain, lexical, parameters⟩, fun none => ?_⟩
  have stub := (occurrences _ occurs).mp none
  cases stub

end JvmGenerics
