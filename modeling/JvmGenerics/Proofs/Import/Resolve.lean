import JvmGenerics.Proofs.Import.Methods

/-!
# Resolving a class

A class is resolved in its lexical chain, its supertypes first and then its methods. The
result does not change any more, whatever the import comes to declare or to fill in
afterwards.
-/

namespace JvmGenerics

/-- The type parameters that a class declares. -/
def ClassGenerics.parameters (generics : ClassGenerics) : List Signature.TypeParameter :=
  Signature.ClassSignature.parametersOf generics.signature?

/-- What becomes of a class with a given chain. -/
def ImportSources.resolvedClass (sources : ImportSources) (batch : List ClassInfo)
    (store : TypeStore) (chain : ScopeChain) (declared : DeclaredClass) : ImportedClass :=
  ⟨declared.info, declared.origin, declared.generics.scope,
    (sources.place batch store chain).supertypesOf declared.info declared.generics.signature?,
    declared.methods.map (sources.resolvedMethod batch store chain)⟩

theorem DeclaredClass.map_scope_headers (declared : DeclaredClass) :
    declared.headers.map ScopeHeader.scope = declared.generics.scope.toList ++
      declared.methods.flatMap fun method => method.generics.scope.toList := by
  rw [headers, List.map_append, List.map_flatMap]
  congr 1
  · cases scope : declared.generics.scope <;> simp [ClassGenerics.header?, scope]
  · refine List.flatMap_congr fun method _ => ?_
    cases scope : method.generics.scope <;> simp [DeclaredMethod.header?, scope]

theorem DeclaredClass.mem_headers_of_generic {declared : DeclaredClass} {scope : ScopeId}
    {signature : Signature.ClassSignature} (generics : declared.generics = .generic scope signature) :
    ⟨scope, .ofClass declared.name, signature.parameterNames⟩ ∈ declared.headers := by
  refine List.mem_append_left _ ?_
  simp [ClassGenerics.header?, generics, ClassGenerics.scope, ClassGenerics.signature?]

/-- What is collected from the declared methods is known from the verdicts. -/
theorem DeclaredMethod.flatMap_numberEach {α : Type}
    (collect : MethodInfo → Option Signature.MethodSignature → List α) (next : ScopeId)
    (verdicts : List (MethodInfo × Verdict Signature.MethodSignature)) :
    ((DeclaredMethod.numberEach next verdicts).flatMap fun method =>
      collect method.info method.generics.signature?) =
        verdicts.flatMap fun method => collect method.1 method.2.kept? := by
  induction verdicts generalizing next with
  | nil => rfl
  | cons method rest ih =>
    obtain ⟨info, verdict⟩ := method
    rw [numberEach, List.flatMap_cons, List.flatMap_cons, ih]
    cases verdict with
    | kept signature =>
      by_cases plain : signature.typeParameters.isEmpty <;>
        simp [MethodGenerics.ofVerdict, MethodGenerics.signature?, Verdict.kept?, plain]
    | _ => rfl

theorem ClassInfo.signature?_declaredAt (origin : Origin) (next : ScopeId) (info : ClassInfo) :
    (info.declaredAt origin next).generics.signature? = info.verdict.kept? := by
  simp only [declaredAt]
  cases info.verdict <;> rfl

theorem ClassInfo.questions_eq (origin : Origin) (next : ScopeId) (info : ClassInfo) :
    info.questions = info.typeQuestions (info.declaredAt origin next).generics.signature? ++
      (info.declaredAt origin next).methods.flatMap fun method =>
        method.info.typeQuestions method.generics.signature? := by
  rw [signature?_declaredAt, questions]
  exact congrArg _ (DeclaredMethod.flatMap_numberEach MethodInfo.typeQuestions _ _).symm

theorem ClassInfo.resolutionDiagnostics_eq (origin : Origin) (next : ScopeId)
    (info : ClassInfo) :
    info.resolutionDiagnostics = (info.declaredAt origin next).methods.flatMap fun method =>
      method.info.resolutionDiagnostics info.name method.generics.signature? :=
  (DeclaredMethod.flatMap_numberEach (MethodInfo.resolutionDiagnostics info.name) _ _).symm

namespace ImportState.WellFormed

variable {state : ImportState} {reported : List Diagnostic} {declared : DeclaredClass}

theorem questions_eq (wellFormed : state.WellFormed reported) (member : declared ∈ state.classes) :
    declared.info.questions = declared.info.typeQuestions declared.generics.signature? ++
      declared.methods.flatMap fun method =>
        method.info.typeQuestions method.generics.signature? := by
  obtain ⟨next, shape⟩ := wellFormed.declared declared member
  have questions := ClassInfo.questions_eq declared.origin next declared.info
  rwa [← shape] at questions

theorem resolutionDiagnostics_eq (wellFormed : state.WellFormed reported)
    (member : declared ∈ state.classes) :
    declared.info.resolutionDiagnostics = declared.methods.flatMap fun method =>
      method.info.resolutionDiagnostics declared.name method.generics.signature? := by
  obtain ⟨next, shape⟩ := wellFormed.declared declared member
  have diagnostics := ClassInfo.resolutionDiagnostics_eq declared.origin next declared.info
  rwa [← shape] at diagnostics

/-- The scopes of a class and of its methods are different from each other. -/
theorem nodup_scopes_of_mem (wellFormed : state.WellFormed reported)
    (member : declared ∈ state.classes) :
    (declared.generics.scope.toList ++
      declared.methods.flatMap fun method => method.generics.scope.toList).Nodup := by
  obtain ⟨next, shape⟩ := wellFormed.declared declared member
  rw [← declared.map_scope_headers, shape, ClassInfo.scopes_declaredAt]
  exact List.nodup_range'

end ImportState.WellFormed

namespace Import

open ImportState

variable {sources : ImportSources} {batch : List ClassInfo} {reported : List Diagnostic}
variable {state : ImportState} {chain : ScopeChain}

/-- Resolve the type parameters and the supertypes of a class with a given chain. -/
def resolveSupertypes (sources : ImportSources) (chain : ScopeChain) (declared : DeclaredClass) :
    Import Supertypes :=
  let place := surroundings sources chain
  match declared.generics with
  | .generic scope signature => do
    completeScope place scope signature.typeParameters
    place.supertypes signature
  | .erased _ => place.erasedSupertypes declared.info.superclass declared.info.interfaces

theorem resolveClass_run (sources : ImportSources) (declared : DeclaredClass)
    (state : ImportState) :
    (resolveClass sources declared).run state =
      let walk := (lexicalChain sources declared).run state
      let supertypes := (resolveSupertypes sources walk.1 declared).run walk.2
      let methods := (declared.methods.mapM (resolveMethod sources declared.name walk.1)).run
        supertypes.2
      (⟨declared.info, declared.origin, declared.generics.scope, supertypes.1, methods.1⟩,
        methods.2) := by
  obtain ⟨info, origin, generics, methods⟩ := declared
  cases generics <;> rfl

/-- A class gets the supertypes that its signature or its erased types mean. -/
theorem resolveSupertypes_spec (sound : state.Sound sources batch reported)
    {declared : DeclaredClass} (member : declared ∈ state.classes)
    (visible : ∀ scope ∈ chain, scope < state.store.scopes.length) :
    let after := ((resolveSupertypes sources chain declared).run state).2
    ((resolveSupertypes sources chain declared).run state).1 =
        (sources.place batch state.store chain).supertypesOf declared.info
          declared.generics.signature? ∧
      after.Sound sources batch reported ∧
      state.Progress sources batch ((declared.info.typeQuestions
        declared.generics.signature?).filterMap Question.className?)
        declared.generics.scope.toList after ∧
      after.Completes declared.generics.scope (.ofClass declared.name)
        ((sources.place batch state.store chain).parametersOf declared.generics.parameters) := by
  have same := surroundings_answersLike sources batch [] visible
  cases generics : declared.generics with
  | erased scope =>
    have ⟨value, after, progress⟩ := yields_spec sound
      (Surroundings.erasedSupertypes_yields same declared.info.superclass declared.info.interfaces)
    have effect : resolveSupertypes sources chain declared =
        (surroundings sources chain).erasedSupertypes declared.info.superclass
          declared.info.interfaces := by
      simp only [resolveSupertypes, generics]
    rw [effect, value]
    refine ⟨rfl, after, progress.mono (List.nil_subset _), ?_⟩
    rintro found rfl
    have own : (⟨found, .ofClass declared.name, []⟩ : ScopeHeader) ∈ declared.headers :=
      List.mem_append_left _ (by simp [ClassGenerics.header?, generics, ClassGenerics.scope,
        ClassGenerics.signature?])
    obtain ⟨present, listed, owner, names⟩ :=
      TypeStore.mem_headers.mp (sound.mem_headers member own)
    rw [progress.untouched found (sound.scope_lt member own) List.not_mem_nil, listed]
    obtain ⟨presentOwner, parameters⟩ := present
    obtain rfl : presentOwner = .ofClass declared.name := owner
    obtain rfl : parameters = [] := by simpa [Scope.names] using names
    rfl
  | generic scope signature =>
    have own := DeclaredClass.mem_headers_of_generic generics
    have effect : resolveSupertypes sources chain declared = (do
        completeScope (surroundings sources chain) scope signature.typeParameters
        (surroundings sources chain).supertypes signature) := by
      simp only [resolveSupertypes, generics]
    rw [effect]
    exact completeScope_yields_spec sound member own visible rfl
      fun same => Surroundings.supertypes_yields same signature

end Import

namespace ImportState

variable {sources : ImportSources} {batch : List ClassInfo} {reported : List Diagnostic}
variable {state : ImportState} {chain : ScopeChain}

/-- A class of the table was resolved, and nothing that comes later changes that: its
chain is the lexical chain, its types are what its signatures mean in that chain, and
so are the bounds in its scopes and in those of its methods. -/
structure Resolved (sources : ImportSources) (batch : List ClassInfo) (state : ImportState)
    (chain : ScopeChain) (declared : DeclaredClass) (imported : ImportedClass) : Prop where
  lexical : state.IsChain sources batch [] declared chain
  visible : ∀ scope ∈ chain, scope < state.store.scopes.length
  value : imported = sources.resolvedClass batch state.store chain declared
  classScope : state.Completes declared.generics.scope (.ofClass declared.name)
    ((sources.place batch state.store chain).parametersOf declared.generics.parameters)
  methodScopes : ∀ method ∈ declared.methods, state.Completes method.generics.scope
    (.ofMethod declared.name method.info.key)
    ((sources.place batch state.store (method.generics.scope.toList ++ chain)).parametersOf
      method.generics.parameters)
  settled : ∀ name ∈ declared.info.needs, state.Settled sources name

theorem Resolved.info_eq {declared : DeclaredClass} {imported : ImportedClass}
    (resolved : state.Resolved sources batch chain declared imported) :
    imported.info = declared.info := by
  rw [resolved.value]
  rfl

/-- The scopes of a chain are those of classes in the table. -/
theorem IsChain.visible {visited : List String} {declared : DeclaredClass}
    (lexical : state.IsChain sources batch visited declared chain)
    (sound : state.Sound sources batch reported) (member : declared ∈ state.classes) :
    ∀ scope ∈ chain, scope < state.store.scopes.length := by
  have bounded {found : DeclaredClass} (listed : found ∈ state.classes) :
      ∀ scope ∈ found.outline.scopes, scope < state.store.scopes.length := by
    intro scope own
    rw [DeclaredClass.scopes_outline] at own
    obtain ⟨header, present, rfl⟩ := List.mem_map.mp own
    exact sound.scope_lt listed present
  refine LexicalChain.forall_mem ?_ (lexical sound (Grown.refl [] state)) (bounded member)
  intro name outline present
  obtain ⟨found, listed, rfl⟩ := Option.map_eq_some_iff.mp present
  exact bounded (mem_of_class? listed).1

theorem resolvedClass_eq {touched : List ScopeId} {later : ImportState}
    (wellFormed : state.WellFormed reported) {declared : DeclaredClass}
    (member : declared ∈ state.classes)
    (visible : ∀ scope ∈ chain, scope < state.store.scopes.length)
    (grown : state.Grown touched later) :
    sources.resolvedClass batch later.store chain declared =
      sources.resolvedClass batch state.store chain declared := by
  rw [ImportSources.resolvedClass, ImportSources.resolvedClass, place_eq visible grown,
    wellFormed.resolvedMethods_eq member (fun _ own => own) visible grown]

theorem Resolved.mono {declared : DeclaredClass} {imported : ImportedClass}
    {touched : List ScopeId} {later : ImportState}
    (resolved : state.Resolved sources batch chain declared imported)
    (wellFormed : state.WellFormed reported) (member : declared ∈ state.classes)
    (grown : state.Grown touched later)
    (untouched : ∀ scope ∈ declared.headers.map ScopeHeader.scope, scope ∉ touched) :
    later.Resolved sources batch chain declared imported where
  lexical := ImportState.IsChain.mono resolved.lexical grown
  visible scope listed := Nat.lt_of_lt_of_le (resolved.visible scope listed) grown.scopes_le
  value := by
    rw [resolved.value, resolvedClass_eq wellFormed member resolved.visible grown]
  classScope := by
    rw [DeclaredClass.map_scope_headers, List.forall_mem_append] at untouched
    rw [place_eq resolved.visible grown]
    exact resolved.classScope.mono grown fun found same =>
      untouched.1 found (Option.mem_toList.mpr same)
  methodScopes method own := by
    rw [DeclaredClass.map_scope_headers, List.forall_mem_append] at untouched
    rw [place_eq (wellFormed.visible_method member own resolved.visible) grown]
    exact (resolved.methodScopes method own).mono grown fun found same =>
      untouched.2 found (List.mem_flatMap.mpr ⟨method, own, Option.mem_toList.mpr same⟩)
  settled name need := (resolved.settled name need).mono grown

end ImportState

namespace Import

open ImportState

variable {sources : ImportSources} {batch : List ClassInfo} {reported : List Diagnostic}
variable {state : ImportState}

/-- Resolving a class of the table. -/
theorem resolveClass_spec
    (limited : batch.length + sources.classpath.names.length ≤ sources.limit)
    (sound : state.Sound sources batch reported) {declared : DeclaredClass}
    (member : declared ∈ state.classes) :
    let after := ((resolveClass sources declared).run state).2
    after.Sound sources batch (reported ++ declared.info.resolutionDiagnostics) ∧
      state.Progress sources batch declared.info.needs
        (declared.headers.map ScopeHeader.scope) after ∧
      ∃ chain, after.Resolved sources batch chain declared
        ((resolveClass sources declared).run state).1 := by
  have ⟨walked, first, lexical⟩ := chainFrom_spec limited (sources.limit + 1) sound member
    List.nodup_nil (List.nil_subset _) (by simp)
  rw [if_neg List.not_mem_nil] at first
  rw [resolveClass_run, lexicalChain]
  generalize (chainFrom sources (sources.limit + 1) [] declared).run state = walk at *
  obtain ⟨chain, base⟩ := walk
  have inBase := first.classes.subset member
  have visible := lexical.visible walked inBase
  have ⟨supertypes, middle, second, classScope⟩ := resolveSupertypes_spec walked inBase visible
  simp only [supertypes]
  generalize ((resolveSupertypes sources chain declared).run base).2 = next at *
  have inNext := second.classes.subset inBase
  have visibleNext : ∀ scope ∈ chain, scope < next.store.scopes.length := fun scope listed =>
    Nat.lt_of_lt_of_le (visible scope listed) second.scopes_le
  have distinct := sound.nodup_scopes_of_mem member
  rw [List.nodup_append'] at distinct
  obtain ⟨-, methodsDistinct, disjoint⟩ := distinct
  have ⟨methods, after, third, methodScopes⟩ := resolveMethods_spec middle inNext
    (fun method own => own) methodsDistinct visibleNext
  simp only [methods]
  generalize ((declared.methods.mapM (resolveMethod sources declared.name chain)).run next).2 =
    last at *
  have further := (second.mono (List.subset_append_left _ _)).trans
    (third.mono (List.subset_append_right declared.generics.scope.toList _))
  have progress := (first.mono (List.nil_subset _)).trans further
  rw [← List.filterMap_append, ← sound.questions_eq member, ← declared.map_scope_headers]
    at progress
  have places (method : DeclaredMethod) (own : method ∈ declared.methods) :
      sources.place batch last.store (method.generics.scope.toList ++ chain) =
        sources.place batch next.store (method.generics.scope.toList ++ chain) :=
    place_eq (middle.visible_method inNext own visibleNext) third.toGrown
  refine ⟨?_, progress, chain, ?_, ?_, ?_, ?_, ?_, progress.settled⟩
  · rw [sound.resolutionDiagnostics_eq member]
    exact after
  · exact ImportState.IsChain.mono lexical further.toGrown
  · exact fun scope listed => Nat.lt_of_lt_of_le (visible scope listed) further.scopes_le
  · rw [resolvedClass_eq walked.toWellFormed inBase visible further.toGrown,
      walked.resolvedMethods_eq inBase (fun _ own => own) visible second.toGrown]
    rfl
  · rw [place_eq visible further.toGrown]
    exact classScope.mono third.toGrown fun scope same =>
      disjoint (Option.mem_toList.mpr same)
  · intro method own
    rw [places method own]
    exact methodScopes method own

end Import

end JvmGenerics
