import JvmGenerics.Proofs.Import.Published

/-!
# Lexical scoping

A type variable in the result of an import refers to the nearest scope around it that
declares its name, and it is a stub only if no scope around it does.
-/

namespace JvmGenerics

namespace TypeStore

/-- Whether a scope has a parameter of a given name. -/
def Declares (store : TypeStore) (scope : ScopeId) (name : String) : Prop :=
  ∃ found, store.scope? scope = some found ∧ name ∈ found.names

/-- Whether a scope is the first one of a chain that has a parameter of a given name. -/
def FirstDeclares (store : TypeStore) (chain : ScopeChain) (scope : ScopeId) (name : String) :
    Prop :=
  ∃ inner outer, chain = inner ++ scope :: outer ∧ store.Declares scope name ∧
    ∀ other ∈ inner, ¬ store.Declares other name

/-- Whether a variable refers to the nearest scope of a chain that declares its name. -/
structure Binds (store : TypeStore) (chain : ScopeChain) (reference : TypeVariable) : Prop where
  bound : ∀ scope, reference.scope = some scope ↔ store.FirstDeclares chain scope reference.name
  stub : reference.isStub = true ↔ ∀ scope ∈ chain, ¬ store.Declares scope reference.name

theorem any_declares_iff {store : TypeStore} {scope : ScopeId} {name : String} :
    ((store.scope? scope).any fun found => found.declares name) = true ↔
      store.Declares scope name := by
  simp [Declares, Option.any_eq_true, Scope.declares_iff]

/-- The scope that resolution finds declares the name. -/
theorem declares_of_resolve {store : TypeStore} {chain : ScopeChain} {name : String}
    {scope : ScopeId} (found : chain.resolve store name = some scope) :
    store.Declares scope name := by
  rw [ScopeChain.resolve] at found
  have declares := List.find?_some found
  exact any_declares_iff.mp declares

theorem binds_of_resolve {store : TypeStore} {chain : ScopeChain} {reference : TypeVariable}
    (resolved : reference.scope = chain.resolve store reference.name) :
    store.Binds chain reference where
  bound scope := by
    rw [resolved, ScopeChain.resolve, List.find?_eq_some_iff_append, FirstDeclares,
      any_declares_iff]
    constructor
    · rintro ⟨declares, inner, outer, split, none⟩
      refine ⟨inner, outer, split, declares, fun other listed declared => ?_⟩
      have missing := none other listed
      rw [any_declares_iff.mpr declared] at missing
      cases missing
    · rintro ⟨inner, outer, split, declares, none⟩
      refine ⟨declares, inner, outer, split, fun other listed => ?_⟩
      rw [Bool.not_eq_true']
      exact Bool.eq_false_iff.mpr fun declared => none other listed (any_declares_iff.mp declared)
  stub := by
    rw [TypeVariable.isStub, Option.isNone_iff_eq_none, resolved, ScopeChain.resolve,
      List.find?_eq_none]
    simp only [any_declares_iff]

end TypeStore

/-- Every imported class has one lexical chain, and every type variable is bound in the
chain of its place: that of the class, or within a method that of the class with the
scope of the method in front of it. -/
theorem variables_bound_lexically (options : ImportOptions) (classpath : Classpath)
    (batch : List ClassInfo) :
    let imported := importClasses options classpath batch
    ∀ published ∈ imported.classes, ∃ chain,
      (∀ other, imported.IsLexicalChain published other ↔ other = chain) ∧
        (∀ reference ∈ published.occurrences imported,
          imported.store.Binds chain reference) ∧
        ∀ method ∈ published.methods, ∀ reference ∈ method.occurrences imported,
          imported.store.Binds (method.scope.toList ++ chain) reference := by
  intro imported published member
  obtain ⟨state, outcome⟩ := importClasses_outcome options classpath batch
  obtain ⟨declared, inTable, chain, resolved⟩ := outcome.exists_resolved member
  have lexical := outcome.isLexicalChain resolved
  have resolvedIn := outcome.resolvedIn inTable resolved
  refine ⟨chain, fun other => ⟨fun otherLexical => otherLexical.unique lexical, ?_⟩,
    fun reference occurs => TypeStore.binds_of_resolve (resolvedIn.scope_eq reference occurs),
    fun method listed reference occurs => TypeStore.binds_of_resolve
      ((resolvedIn.methods method listed).scope_eq reference occurs)⟩
  rintro rfl
  exact lexical

set_option maxRecDepth 20000 in
/-- In the method of `Box`, `U` is bound to the scope of the method. -/
theorem variables_bound_lexically_box :
    let imported := importClasses .standard .empty [.box]
    ∃ published ∈ imported.classes, ∃ method ∈ published.methods, ∃ chain,
      imported.IsLexicalChain published chain ∧
        ⟨"U", some 1⟩ ∈ method.occurrences imported ∧
          imported.store.Binds (method.scope.toList ++ chain) ⟨"U", some 1⟩ := by
  have member : .box ∈ (importClasses .standard .empty [.box]).classes := by decide +kernel
  have occurs : ∃ method ∈ ImportedClass.box.methods,
      ⟨"U", some 1⟩ ∈ method.occurrences (importClasses .standard .empty [.box]) := by
    decide +kernel
  obtain ⟨chain, lexical, -, methods⟩ :=
    variables_bound_lexically .standard .empty [.box] .box member
  obtain ⟨method, listed, inside⟩ := occurs
  exact ⟨.box, member, method, listed, chain, (lexical chain).mpr rfl, inside,
    methods method listed _ inside⟩

end JvmGenerics
