import JvmGenerics.Proofs.Import.Outcome

/-!
# What an import publishes

Everything that the resolution of a class depended on can be read off the result again:
the signatures that were kept, the lexical chains, and where the classes come from.
-/

namespace JvmGenerics

namespace ImportedClass

/-- The signature of the class, if it was read and its type parameters were declared. -/
def signature? (published : ImportedClass) : Option Signature.ClassSignature :=
  if published.scope.isSome then
    published.info.signature.bind fun text => (Signature.parseClass text).toOption
  else none

end ImportedClass

namespace ImportedMethod

/-- The signature of the method, if it was read and its type parameters were declared. -/
def signature? (published : ImportedMethod) : Option Signature.MethodSignature :=
  (published.info.signature.bind fun text => (Signature.parseMethod text).toOption).filter
    fun signature => signature.typeParameters.isEmpty || published.scope.isSome

end ImportedMethod

namespace Imported

/-- Where a class comes from, as far as the imported classes tell. -/
def originOf (imported : Imported) (name : String) : Origin :=
  ((imported.class? name).map ImportedClass.origin).getD .unresolved

/-- The surroundings of a place with a given chain, with nothing but the imported classes
and their scopes. -/
def view (imported : Imported) (chain : ScopeChain) : Surroundings Id where
  originOf name := imported.originOf name
  declaringScope name := chain.resolve imported.store name

/-- Whether `chain` holds the scopes that are visible in an imported class. -/
def IsLexicalChain (imported : Imported) (published : ImportedClass) (chain : ScopeChain) :
    Prop :=
  LexicalChain imported.outline? [] published.outline chain

end Imported

/-- The type variables in the bounds and the supertypes of an imported class. -/
def ImportedClass.occurrences (imported : Imported) (published : ImportedClass) :
    List TypeVariable :=
  (imported.parameters published.scope).flatMap TypeParameter.occurrences ++
    published.supertypes.occurrences

/-- The type variables in the bounds and the types of an imported method. -/
def ImportedMethod.occurrences (imported : Imported) (published : ImportedMethod) :
    List TypeVariable :=
  (imported.parameters published.scope).flatMap TypeParameter.occurrences ++
    published.types.occurrences

/-- The type variables in all bounds and types of the result. -/
def Imported.occurrences (imported : Imported) : List TypeVariable :=
  imported.classes.flatMap fun published => published.occurrences imported ++
    published.methods.flatMap fun method => method.occurrences imported

/-- The scopes of an imported class and of its methods, each with its owner. -/
def ImportedClass.holders (published : ImportedClass) : List (ScopeId × Owner) :=
  (published.scope.map fun scope => (scope, .ofClass published.name)).toList ++
    published.methods.flatMap fun method => (method.scope.map fun scope =>
      (scope, .ofMethod published.name method.info.key)).toList

theorem DeclaredClass.signature?_eq {declared : DeclaredClass} {next : ScopeId}
    (shape : declared = declared.info.declaredAt declared.origin next)
    {supertypes : Supertypes} {methods : List ImportedMethod} :
    (ImportedClass.mk declared.info declared.origin declared.generics.scope supertypes
      methods).signature? = declared.generics.signature? := by
  have generics : declared.generics = .ofVerdict next declared.info.verdict :=
    congrArg DeclaredClass.generics shape
  rw [ImportedClass.signature?, generics]
  unfold ClassInfo.verdict
  cases signature : declared.info.signature with
  | none => rfl
  | some text =>
    cases parsed : Signature.parseClass text with
    | error error => simp [parsed, ClassGenerics.ofVerdict, ClassGenerics.scope,
        ClassGenerics.signature?, Except.toOption]
    | ok kept =>
      simp only [Option.map_some, parsed, Option.bind_some, Owner.verdict]
      cases firstRepeat [] kept.parameterNames <;> rfl

theorem DeclaredMethod.signature?_eq {declared : DeclaredMethod} {className : String}
    {taken : List MethodKey} {next : ScopeId}
    (shape : declared = ⟨declared.info, .ofVerdict next (declared.info.verdict className taken)⟩)
    {types : MethodTypes} :
    (ImportedMethod.mk declared.info declared.generics.scope types).signature? =
      declared.generics.signature? := by
  have generics := congrArg DeclaredMethod.generics shape
  simp only at generics
  rw [ImportedMethod.signature?, generics]
  unfold MethodInfo.verdict
  cases signature : declared.info.signature with
  | none => rfl
  | some text =>
    cases parsed : Signature.parseMethod text with
    | error error => simp [parsed, MethodGenerics.ofVerdict, MethodGenerics.signature?,
        Except.toOption]
    | ok kept =>
      simp only [Option.map_some, parsed, Option.bind_some, Except.toOption, Option.filter_some]
      by_cases plain : kept.typeParameters.isEmpty
      · simp only [plain, if_true, MethodGenerics.ofVerdict, MethodGenerics.signature?,
          Bool.true_or]
      · by_cases present : declared.info.key ∈ taken
        · simp [plain, present, MethodGenerics.ofVerdict, MethodGenerics.scope,
            MethodGenerics.signature?]
        · simp only [plain, present, Owner.verdict]
          cases firstRepeat [] kept.parameterNames <;>
            simp [plain, MethodGenerics.ofVerdict, MethodGenerics.scope,
              MethodGenerics.signature?]

namespace ImportSources

variable {sources : ImportSources} {batch : List ClassInfo} {store : TypeStore}

@[simp]
theorem name_resolvedClass (chain : ScopeChain) (declared : DeclaredClass) :
    (sources.resolvedClass batch store chain declared).name = declared.name :=
  rfl

@[simp]
theorem outline_resolvedClass (chain : ScopeChain) (declared : DeclaredClass) :
    (sources.resolvedClass batch store chain declared).outline = declared.outline := by
  simp [resolvedClass, resolvedMethod, ImportedClass.outline, DeclaredClass.outline,
    List.filterMap_map, Function.comp_def]
  rfl

end ImportSources

namespace Imported.Outcome

variable {sources : ImportSources} {batch : List ClassInfo} {imported : Imported}
variable {state : ImportState}

theorem exists_resolved (outcome : imported.Outcome sources batch state)
    {published : ImportedClass} (member : published ∈ imported.classes) :
    ∃ declared ∈ state.classes, ∃ chain,
      state.Resolved sources batch chain declared published :=
  exists_of_mem_right outcome.resolved member

/-- The classes of the result are what became of those in the table. -/
theorem resolved_mem (outcome : imported.Outcome sources batch state) :
    List.Forall₂ (fun declared published => declared ∈ state.classes ∧
      ∃ chain, state.Resolved sources batch chain declared published)
        state.classes imported.classes :=
  (List.forall₂_and_left _ _).mpr ⟨fun _ member => member, outcome.resolved⟩

/-- The chain in which a class was resolved is its chain in the last state. -/
theorem lexical (outcome : imported.Outcome sources batch state) {declared : DeclaredClass}
    {published : ImportedClass} {chain : ScopeChain}
    (resolved : state.Resolved sources batch chain declared published) :
    LexicalChain state.outline? [] declared.outline chain :=
  resolved.lexical outcome.sound (ImportState.Grown.refl [] state)

/-- The imported class of a name is what became of the declared one. -/
theorem class?_related (outcome : imported.Outcome sources batch state) (name : String) :
    Option.Rel (fun declared published => declared ∈ state.classes ∧
      ∃ chain, state.Resolved sources batch chain declared published)
        (state.class? name) (imported.class? name) := by
  refine rel_find? outcome.resolved_mem fun declared published resolved => ?_
  obtain ⟨-, chain, resolved⟩ := resolved
  rw [resolved.value, ImportSources.name_resolvedClass]

theorem outline?_eq (outcome : imported.Outcome sources batch state) :
    imported.outline? = state.outline? := by
  funext name
  have same := outcome.class?_related name
  unfold Imported.outline? ImportState.outline?
  generalize state.class? name = first, imported.class? name = second at same
  cases same with
  | none => rfl
  | some resolved =>
    obtain ⟨-, chain, resolved⟩ := resolved
    simp [resolved.value]

theorem infos_eq (outcome : imported.Outcome sources batch state) :
    imported.classes.map ImportedClass.info = state.classes.map DeclaredClass.info := by
  rw [map_eq_map_iff_forall₂]
  refine outcome.resolved.flip.imp fun published declared resolved => ?_
  obtain ⟨chain, resolved⟩ := resolved
  rw [resolved.value]
  rfl

theorem names_eq (outcome : imported.Outcome sources batch state) :
    imported.classes.map ImportedClass.name = state.classes.map DeclaredClass.name := by
  have names := congrArg (List.map ClassInfo.name) outcome.infos_eq
  rwa [List.map_map, List.map_map] at names

theorem class?_of_mem (outcome : imported.Outcome sources batch state)
    {published : ImportedClass} (member : published ∈ imported.classes) :
    imported.class? published.name = some published := by
  refine (find?_eq_some_iff_of_nodup ?_).mpr ⟨member, rfl⟩
  rw [outcome.names_eq]
  exact outcome.sound.distinct

/-- A class of the result has the methods that its data lists. -/
theorem methods_eq (outcome : imported.Outcome sources batch state)
    {published : ImportedClass} (member : published ∈ imported.classes) :
    published.methods.map ImportedMethod.info = published.info.methods := by
  obtain ⟨declared, inTable, chain, resolved⟩ := outcome.exists_resolved member
  obtain ⟨next, shape⟩ := outcome.sound.declared declared inTable
  have methods := declared.info.methods_declaredAt declared.origin next
  rw [← shape] at methods
  rw [resolved.value, ImportSources.resolvedClass, List.map_map]
  exact methods

/-- The lexical chain of a class can be read off the result. -/
theorem isLexicalChain (outcome : imported.Outcome sources batch state)
    {declared : DeclaredClass} {published : ImportedClass} {chain : ScopeChain}
    (resolved : state.Resolved sources batch chain declared published) :
    imported.IsLexicalChain published chain := by
  rw [Imported.IsLexicalChain, outcome.outline?_eq, resolved.value,
    ImportSources.outline_resolvedClass]
  exact outcome.lexical resolved

/-- Where a class comes from can be read off the last state. -/
theorem originOf_eq_class? (outcome : imported.Outcome sources batch state) (name : String) :
    imported.originOf name =
      ((state.class? name).map DeclaredClass.origin).getD .unresolved := by
  have same := outcome.class?_related name
  rw [Imported.originOf]
  generalize state.class? name = first, imported.class? name = second at same
  cases same with
  | none => rfl
  | some resolved =>
    obtain ⟨-, chain, resolved⟩ := resolved
    simp [resolved.value, ImportSources.resolvedClass]

theorem originOf_eq (outcome : imported.Outcome sources batch state) {name : String}
    (settled : state.Settled sources name) :
    imported.originOf name = sources.originOf batch name := by
  rw [outcome.originOf_eq_class?, ImportSources.originOf, outcome.sound.classNamed?_eq settled,
    Option.map_map]
  rfl

end Imported.Outcome

theorem ClassInfo.mem_typeQuestions (info : ClassInfo) (kept : Option Signature.ClassSignature)
    {question : Question} (asked : question ∈ (Signature.ClassSignature.parametersOf kept).flatMap
      Signature.TypeParameter.questions) : question ∈ info.typeQuestions kept := by
  cases kept with
  | none => cases asked
  | some signature => exact List.mem_append_left _ asked

theorem MethodInfo.mem_typeQuestions (info : MethodInfo)
    (kept : Option Signature.MethodSignature) {question : Question}
    (asked : question ∈ (Signature.MethodSignature.parametersOf kept).flatMap
      Signature.TypeParameter.questions) : question ∈ info.typeQuestions kept := by
  cases kept with
  | none => cases asked
  | some signature => exact List.mem_append_left _ asked

/-- The types of an imported method are those that its signature means in a given chain,
and so are the parameters of its scope. -/
structure Imported.MethodResolvedIn (imported : Imported) (chain : ScopeChain)
    (published : ImportedMethod) : Prop where
  types : published.types =
    (imported.view chain).methodTypesOf published.info published.signature?
  parameters : imported.parameters published.scope = (imported.view chain).parametersOf
    (Signature.MethodSignature.parametersOf published.signature?)

/-- The types of an imported class and of its methods are those that the signatures mean
in a given chain, and so are the parameters of the scopes. -/
structure Imported.ResolvedIn (imported : Imported) (chain : ScopeChain)
    (published : ImportedClass) : Prop where
  supertypes : published.supertypes =
    (imported.view chain).supertypesOf published.info published.signature?
  parameters : imported.parameters published.scope = (imported.view chain).parametersOf
    (Signature.ClassSignature.parametersOf published.signature?)
  methods : ∀ method ∈ published.methods,
    imported.MethodResolvedIn (method.scope.toList ++ chain) method

namespace Imported

variable {imported : Imported} {chain : ScopeChain}

/-- The variables of a class refer to the scopes that resolution in its chain finds. -/
theorem ResolvedIn.scope_eq {published : ImportedClass}
    (resolved : imported.ResolvedIn chain published) :
    ∀ reference ∈ published.occurrences imported,
      reference.scope = chain.resolve imported.store reference.name := by
  intro reference occurs
  rw [ImportedClass.occurrences, resolved.parameters, resolved.supertypes] at occurs
  rcases List.mem_append.mp occurs with inBounds | inSupertypes
  · obtain ⟨parameter, listed, inside⟩ := List.mem_flatMap.mp inBounds
    exact Surroundings.occurrences_parametersOf _ _ parameter listed reference inside
  · exact Surroundings.occurrences_supertypesOf _ _ _ reference inSupertypes

theorem MethodResolvedIn.scope_eq {published : ImportedMethod}
    (resolved : imported.MethodResolvedIn chain published) :
    ∀ reference ∈ published.occurrences imported,
      reference.scope = chain.resolve imported.store reference.name := by
  intro reference occurs
  rw [ImportedMethod.occurrences, resolved.parameters, resolved.types] at occurs
  rcases List.mem_append.mp occurs with inBounds | inTypes
  · obtain ⟨parameter, listed, inside⟩ := List.mem_flatMap.mp inBounds
    exact Surroundings.occurrences_parametersOf _ _ parameter listed reference inside
  · exact Surroundings.occurrences_methodTypesOf _ _ _ reference inTypes

end Imported

namespace Imported.Outcome

variable {sources : ImportSources} {batch : List ClassInfo} {imported : Imported}
variable {state : ImportState} {chain : ScopeChain}

/-- The result answers like the import did, once a name is settled. -/
theorem changesOn_view (outcome : imported.Outcome sources batch state) (chain : ScopeChain)
    {question : Question}
    (settled : ∀ name, question.className? = some name → state.Settled sources name) :
    Surroundings.ChangesOn id (sources.place batch state.store chain) (imported.view chain)
      question := by
  cases question with
  | origin name => exact outcome.originOf_eq (settled name rfl)
  | scope name =>
    change chain.resolve state.store name = chain.resolve imported.store name
    rw [outcome.store]

theorem parameters_eq (outcome : imported.Outcome sources batch state) {scope : Option ScopeId}
    {owner : Owner} {parameters : List TypeParameter}
    (completes : state.Completes scope owner parameters) (none : scope = none → parameters = []) :
    imported.parameters scope = parameters := by
  cases scope with
  | none => exact (none rfl).symm
  | some found =>
    have present := completes found rfl
    rw [Imported.parameters, Option.elim_some, TypeStore.parameters, outcome.store, present]
    rfl

/-- A class that is asked for by the types of an imported class is settled. -/
theorem settled_of_question {declared : DeclaredClass} {published : ImportedClass}
    (resolved : state.Resolved sources batch chain declared published) {question : Question}
    (asked : question ∈ declared.info.questions) :
    ∀ name, question.className? = some name → state.Settled sources name :=
  fun name named => resolved.settled name
    (List.mem_append_right _ (List.mem_filterMap.mpr ⟨question, asked, named⟩))

/-- What is left of the signature of a class can be read off the result. -/
theorem signature?_eq (outcome : imported.Outcome sources batch state)
    {declared : DeclaredClass} (member : declared ∈ state.classes) {published : ImportedClass}
    (resolved : state.Resolved sources batch chain declared published) :
    published.signature? = declared.generics.signature? := by
  obtain ⟨next, shape⟩ := outcome.sound.declared declared member
  rw [resolved.value]
  exact DeclaredClass.signature?_eq shape

/-- What is left of the signature of a method can be read off the result. -/
theorem signature?_method_eq (outcome : imported.Outcome sources batch state)
    {declared : DeclaredClass} (member : declared ∈ state.classes) {method : DeclaredMethod}
    (own : method ∈ declared.methods) :
    (sources.resolvedMethod batch state.store chain method).signature? =
      method.generics.signature? := by
  obtain ⟨next, shape⟩ := outcome.sound.declared declared member
  rw [shape] at own
  obtain ⟨verdict, inVerdicts, number, same⟩ := DeclaredMethod.exists_of_mem_numberEach own
  obtain ⟨taken, means⟩ := MethodInfo.exists_of_mem_verdictEach inVerdicts
  exact DeclaredMethod.signature?_eq (same.trans (by rw [means, same]))

theorem settled_of_typeQuestion (outcome : imported.Outcome sources batch state)
    {declared : DeclaredClass} (member : declared ∈ state.classes) {published : ImportedClass}
    (resolved : state.Resolved sources batch chain declared published) {question : Question}
    (asked : question ∈ declared.info.typeQuestions declared.generics.signature?) :
    ∀ name, question.className? = some name → state.Settled sources name :=
  settled_of_question resolved
    (outcome.sound.questions_eq member ▸ List.mem_append_left _ asked)

theorem settled_of_methodQuestion (outcome : imported.Outcome sources batch state)
    {declared : DeclaredClass} (member : declared ∈ state.classes) {published : ImportedClass}
    (resolved : state.Resolved sources batch chain declared published) {method : DeclaredMethod}
    (own : method ∈ declared.methods) {question : Question}
    (asked : question ∈ method.info.typeQuestions method.generics.signature?) :
    ∀ name, question.className? = some name → state.Settled sources name :=
  settled_of_question resolved (outcome.sound.questions_eq member ▸
    List.mem_append_right _ (List.mem_flatMap.mpr ⟨method, own, asked⟩))

theorem methodResolvedIn (outcome : imported.Outcome sources batch state)
    {declared : DeclaredClass} (member : declared ∈ state.classes) {published : ImportedClass}
    (resolved : state.Resolved sources batch chain declared published) {method : DeclaredMethod}
    (own : method ∈ declared.methods) :
    imported.MethodResolvedIn (method.generics.scope.toList ++ chain)
      (sources.resolvedMethod batch state.store chain method) := by
  have signature? : (sources.resolvedMethod batch state.store chain method).signature? =
      method.generics.signature? := outcome.signature?_method_eq member own
  have agrees (question : Question)
      (asked : question ∈ method.info.typeQuestions method.generics.signature?) :=
    outcome.changesOn_view (method.generics.scope.toList ++ chain)
      (outcome.settled_of_methodQuestion member resolved own asked)
  have parameters : imported.parameters method.generics.scope =
      (sources.place batch state.store (method.generics.scope.toList ++ chain)).parametersOf
        method.generics.parameters :=
    outcome.parameters_eq (resolved.methodScopes method own) fun missing => by
      cases generics : method.generics with
      | erased => rfl
      | plain signature =>
        obtain ⟨next, shape⟩ := outcome.sound.declared declared member
        rw [shape] at own
        have noParameters := ClassInfo.typeParameters_eq_nil own generics
        change (sources.place batch state.store _).parametersOf signature.typeParameters = []
        rw [noParameters]
        rfl
      | generic scope signature => rw [generics] at missing; cases missing
  refine ⟨?_, ?_⟩
  · rw [signature?]
    exact (Surroundings.methodTypesOf_eq method.info _ agrees).symm
  · rw [signature?]
    exact parameters.trans (Surroundings.parametersOf_eq _
      fun question asked => agrees question (method.info.mem_typeQuestions _ asked)).symm

/-- Every imported class is resolved in its lexical chain. -/
theorem resolvedIn (outcome : imported.Outcome sources batch state) {declared : DeclaredClass}
    (member : declared ∈ state.classes) {published : ImportedClass}
    (resolved : state.Resolved sources batch chain declared published) :
    imported.ResolvedIn chain published := by
  have signature? := outcome.signature?_eq member resolved
  have agrees (question : Question)
      (asked : question ∈ declared.info.typeQuestions declared.generics.signature?) :=
    outcome.changesOn_view chain (outcome.settled_of_typeQuestion member resolved asked)
  have parameters : imported.parameters declared.generics.scope =
      (sources.place batch state.store chain).parametersOf declared.generics.parameters :=
    outcome.parameters_eq resolved.classScope fun missing => by
      cases generics : declared.generics with
      | erased _ => rfl
      | generic scope signature => rw [generics] at missing; cases missing
  refine ⟨?_, ?_, ?_⟩
  · rw [signature?, resolved.value]
    exact (Surroundings.supertypesOf_eq declared.info _ agrees).symm
  · rw [signature?, resolved.value]
    exact parameters.trans (Surroundings.parametersOf_eq _
      fun question asked => agrees question (declared.info.mem_typeQuestions _ asked)).symm
  · rw [resolved.value]
    intro method listed
    obtain ⟨method, own, rfl⟩ := List.mem_map.mp listed
    exact outcome.methodResolvedIn member resolved own

end Imported.Outcome

/-- `class Box<T> extends Base`, with one method `<U extends T> U get()`. -/
def ClassInfo.box : ClassInfo :=
  ⟨"Box", some "<T:>LBase;", some "Base", [], none,
    [⟨⟨"get", "()LBase;"⟩, some "<U:TT;>()TU;"⟩]⟩

/-- `class Base<S>`, without methods. -/
def ClassInfo.base : ClassInfo :=
  ⟨"Base", some "<S:Ljava/lang/Object;>Ljava/lang/Object;", some "java.lang.Object", [], none, []⟩

/-- The class `Box` in the result of its import. -/
def ImportedClass.box : ImportedClass :=
  ⟨.box, .imported, some 0, ⟨some (.classRef ⟨"Base", 0, .unresolved⟩), []⟩,
    [⟨⟨⟨"get", "()LBase;"⟩, some "<U:TT;>()TU;"⟩, some 1,
      ⟨[], some (.typeVariable ⟨"U", some 1⟩), []⟩⟩]⟩

end JvmGenerics
