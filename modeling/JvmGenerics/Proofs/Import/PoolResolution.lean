import JvmGenerics.Proofs.Import.Bounds

/-!
# Resolution after the import

An import resolves a class while it still loads others, yet no answer is given too early:
resolution of the same signature with the result of the import alone yields the same
types. Only where a class was loaded from can no longer be told.
-/

namespace JvmGenerics

/-- Where a class comes from for those who see imported classes only. -/
def Origin.pooled : Origin → Origin
  | classpath => imported
  | origin => origin

/-- Type parameters with their bounds, as those see them who see imported classes only. -/
def pooledBounds (parameters : List TypeParameter) : List (String × List JavaType) :=
  parameters.map fun parameter =>
    (parameter.name, parameter.bounds.map (JavaType.mapOrigins Origin.pooled))

namespace Imported

variable {sources : ImportSources} {batch : List ClassInfo} {imported : Imported}
variable {state : ImportState} {chain : ScopeChain}

theorem Outcome.originOf_pooled (outcome : imported.Outcome sources batch state)
    (name : String) :
    (if imported.contains name then Origin.imported else .unresolved) =
      (imported.originOf name).pooled := by
  rw [Imported.contains, Imported.originOf]
  cases found : imported.class? name with
  | none => rfl
  | some published =>
    have member := List.mem_of_find?_eq_some found
    obtain ⟨declared, inTable, _, resolved⟩ := outcome.exists_resolved member
    have origin : published.origin = declared.origin := by rw [resolved.value]; rfl
    obtain batch | classpath :=
      ImportSources.origin_of_classNamed? (outcome.sound.known declared inTable)
    · rw [Option.isSome_some, if_pos rfl, Option.map_some, Option.getD_some, origin, batch]
      rfl
    · rw [Option.isSome_some, if_pos rfl, Option.map_some, Option.getD_some, origin, classpath]
      rfl

/-- The pool of imported classes answers like the import, up to the origins. -/
theorem Outcome.changesOn_place (outcome : imported.Outcome sources batch state)
    (chain : ScopeChain) (question : Question) :
    Surroundings.ChangesOn Origin.pooled (imported.view chain) (imported.place chain)
      question := by
  cases question with
  | origin name => exact outcome.originOf_pooled name
  | scope name => rfl

/-- The pool yields the same bounds as the import, up to the origins. -/
theorem Outcome.typeParameters_place (outcome : imported.Outcome sources batch state)
    (chain : ScopeChain) (parameters : List Signature.TypeParameter) :
    ((imported.place chain).typeParameters parameters).run =
      pooledBounds ((imported.view chain).parametersOf parameters) := by
  have same := Surroundings.parametersOf_change rfl parameters
    fun question _ => outcome.changesOn_place chain question
  calc ((imported.place chain).typeParameters parameters).run
      = ((imported.place chain).parametersOf parameters).map
          (fun parameter => (parameter.name, parameter.bounds)) := by
        rw [Surroundings.typeParameters_run, Surroundings.parametersOf, List.map_map]
        rfl
    _ = pooledBounds ((imported.view chain).parametersOf parameters) := by
        rw [same, List.map_map]
        rfl

end Imported

/-- For every class and method whose signature was kept, resolution in the pool of the
imported classes, with the lexical chain read off them, yields the bounds and the types
that the import gave it. -/
theorem resolved_again (options : ImportOptions) (classpath : Classpath)
    (batch : List ClassInfo) :
    let imported := importClasses options classpath batch
    ∀ published ∈ imported.classes, ∃ chain,
      (∀ other, imported.IsLexicalChain published other ↔ other = chain) ∧
        (∀ signature, published.signature? = some signature →
          ((imported.place chain).typeParameters signature.typeParameters).run =
              pooledBounds (imported.parameters published.scope) ∧
            ((imported.place chain).supertypes signature).run =
              published.supertypes.mapOrigins Origin.pooled) ∧
        ∀ method ∈ published.methods, ∀ signature, method.signature? = some signature →
          ((imported.place (method.scope.toList ++ chain)).typeParameters
              signature.typeParameters).run = pooledBounds (imported.parameters method.scope) ∧
            ((imported.place (method.scope.toList ++ chain)).methodTypes signature).run =
              method.types.mapOrigins Origin.pooled := by
  intro imported published member
  obtain ⟨state, outcome⟩ := importClasses_outcome options classpath batch
  obtain ⟨declared, inTable, chain, resolved⟩ := outcome.exists_resolved member
  have lexical := outcome.isLexicalChain resolved
  have resolvedIn := outcome.resolvedIn inTable resolved
  refine ⟨chain, fun other => ⟨fun otherLexical => otherLexical.unique lexical, ?_⟩,
    fun signature kept => ⟨?_, ?_⟩, fun method listed signature kept => ⟨?_, ?_⟩⟩
  · rintro rfl
    exact lexical
  · rw [outcome.typeParameters_place, resolvedIn.parameters, kept]
    rfl
  · rw [resolvedIn.supertypes, kept]
    exact Surroundings.supertypesOf_change rfl published.info (some signature)
      fun question _ => outcome.changesOn_place chain question
  · rw [outcome.typeParameters_place, (resolvedIn.methods method listed).parameters, kept]
    rfl
  · rw [(resolvedIn.methods method listed).types, kept]
    exact Surroundings.methodTypesOf_change rfl method.info (some signature)
      fun question _ => outcome.changesOn_place (method.scope.toList ++ chain) question

set_option maxRecDepth 20000 in
/-- The method of `Box` keeps its signature, and the pool yields its types again. -/
theorem resolved_again_box :
    let imported := importClasses .standard .empty [.box]
    .box ∈ imported.classes ∧ ∃ method ∈ ImportedClass.box.methods, ∃ signature,
      method.signature? = some signature ∧ ∃ chain, imported.IsLexicalChain .box chain ∧
        ((imported.place (method.scope.toList ++ chain)).methodTypes signature).run =
          method.types.mapOrigins Origin.pooled := by
  have member : .box ∈ (importClasses .standard .empty [.box]).classes := by decide +kernel
  have keeps : ∃ method ∈ ImportedClass.box.methods, method.signature?.isSome := by
    decide +kernel
  obtain ⟨method, listed, isSome⟩ := keeps
  obtain ⟨signature, kept⟩ := Option.isSome_iff_exists.mp isSome
  obtain ⟨chain, lexical, -, methods⟩ :=
    resolved_again .standard .empty [.box] .box member
  exact ⟨member, method, listed, signature, kept, chain, (lexical chain).mpr rfl,
    (methods method listed signature kept).2⟩

end JvmGenerics
