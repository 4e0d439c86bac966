import JvmGenerics.Import.Run
import JvmGenerics.Proofs.Import.Walk

/-!
# Resolving methods

A method is resolved at some moment of an import, while classes and scopes are still to
come. What comes out is what its signature means in a place that does not change any
more: the scopes around it, and the classes that names mean for all time.
-/

namespace JvmGenerics

/-- The type parameters that a method declares. -/
def MethodGenerics.parameters (generics : MethodGenerics) : List Signature.TypeParameter :=
  Signature.MethodSignature.parametersOf generics.signature?

namespace ImportSources

variable (sources : ImportSources) (batch : List ClassInfo) (store : TypeStore)

/-- What becomes of a method of a class with a given chain. -/
def resolvedMethod (chain : ScopeChain) (declared : DeclaredMethod) : ImportedMethod :=
  ⟨declared.info, declared.generics.scope,
    (sources.place batch store (declared.generics.scope.toList ++ chain)).methodTypesOf
      declared.info declared.generics.signature?⟩

end ImportSources

namespace ImportState

/-- The scope, if there is one, holds the given parameters of the given owner. -/
def Completes (state : ImportState) (scope : Option ScopeId) (owner : Owner)
    (parameters : List TypeParameter) : Prop :=
  ∀ found, scope = some found → state.store.scope? found = some ⟨owner, parameters⟩

variable {sources : ImportSources} {batch : List ClassInfo} {reported : List Diagnostic}
variable {state : ImportState}

theorem Completes.mono {touched : List ScopeId} {later : ImportState} {scope : Option ScopeId}
    {owner : Owner} {parameters : List TypeParameter}
    (completes : state.Completes scope owner parameters) (grown : state.Grown touched later)
    (untouched : ∀ found, scope = some found → found ∉ touched) :
    later.Completes scope owner parameters := by
  intro found same
  have before := completes found same
  have bound : found < state.store.scopes.length := (List.getElem?_eq_some_iff.mp before).1
  rw [grown.untouched found bound (untouched found same), before]

theorem place_eq {chain : ScopeChain} {touched : List ScopeId} {later : ImportState}
    (visible : ∀ scope ∈ chain, scope < state.store.scopes.length)
    (grown : state.Grown touched later) :
    sources.place batch later.store chain = sources.place batch state.store chain := by
  have resolve : (chain.resolve later.store : String → Option ScopeId) =
      chain.resolve state.store :=
    funext (ScopeChain.resolve_eq_of_prefix grown.headers visible)
  simp only [ImportSources.place, resolve]

/-- A state in which one scope has other bounds. -/
def withScope (state : ImportState) (scope : ScopeId) (changed : Scope) : ImportState :=
  { state with store := ⟨state.store.scopes.set scope changed⟩ }

section WithScope

variable {scope : ScopeId} {found : Scope} (changed : Scope)
variable (present : state.store.scope? scope = some found)
variable (owner : changed.owner = found.owner) (names : changed.names = found.names)
include present owner names

theorem Sound.withScope (sound : state.Sound sources batch reported) :
    (state.withScope scope changed).Sound sources batch reported :=
  ⟨⟨sound.distinct, sound.declared,
    (TypeStore.headers_set present owner names).trans sound.layout,
    sound.diagnostics, sound.defects⟩,
    sound.known, sound.covered, sound.asked, sound.loaded⟩

theorem progress_withScope :
    state.Progress sources batch [] [scope] (state.withScope scope changed) where
  classes := List.prefix_rfl
  headers := (TypeStore.headers_set present owner names).symm ▸ List.prefix_rfl
  requests := List.Subset.refl _
  untouched other _ fresh := by
    have different : scope ≠ other := fun same => fresh (List.mem_singleton.mpr same.symm)
    simp [ImportState.withScope, TypeStore.scope?, List.getElem?_set_ne different]
  unrepeated := id
  settled := by simp
  justified justified _ := ⟨justified.classes, justified.requests⟩

end WithScope

end ImportState

namespace Import

open ImportState

variable {sources : ImportSources} {batch : List ClassInfo} {reported : List Diagnostic}
variable {state : ImportState} {chain : ScopeChain}

/-- Filling in a scope settles what the bounds refer to, and it is never refused. -/
theorem completeScope_spec (header : ScopeHeader) (parameters : List Signature.TypeParameter)
    (sound : state.Sound sources batch reported)
    (visible : ∀ scope ∈ chain, scope < state.store.scopes.length)
    (declared : header ∈ state.store.headers) (distinct : header.names.Nodup)
    (names : header.names = parameters.map Signature.TypeParameter.name) :
    let after := ((completeScope (surroundings sources chain) header.scope parameters).run state).2
    after.Sound sources batch reported ∧
      state.Progress sources batch ((parameters.flatMap
        Signature.TypeParameter.questions).filterMap Question.className?) [header.scope] after ∧
      after.store.scope? header.scope =
        some ⟨header.owner, (sources.place batch state.store chain).parametersOf parameters⟩ := by
  have same := surroundings_answersLike sources batch [] visible
  have definitions := Surroundings.typeParameters_yields same parameters state
    ⟨⟨reported, sound⟩, Grown.refl [] state⟩
  have ⟨middle, first⟩ := askEach_spec sound chain
    (parameters.flatMap Signature.TypeParameter.questions)
  rw [Surroundings.typeParameters_run] at definitions
  have later := first.headers.subset declared
  set asked := (surroundings sources chain).askEach state
    (parameters.flatMap Signature.TypeParameter.questions) with asked_def
  obtain ⟨found, present, owner, foundNames⟩ := TypeStore.mem_headers.mp later
  set changed : Scope :=
    ⟨found.owner, (sources.place batch state.store chain).parametersOf parameters⟩ with changed_def
  have changedNames : changed.names = found.names := by
    rw [foundNames, names]
    exact Surroundings.names_parametersOf _ parameters
  have complete := TypeStore.defineEach_complete (parameters.map fun parameter =>
      (parameter.name, ((sources.place batch state.store chain).bounds parameter).run)) present
    (foundNames ▸ distinct) (by simp [foundNames, names, Function.comp_def])
    (by simpa using fun parameter _ => Surroundings.bounds_ne_nil _ parameter)
  have effect : (completeScope (surroundings sources chain) header.scope parameters).run state =
      ((), asked.withScope header.scope changed) := by
    rw [completeScope, run_bind, definitions]
    change ((), _) = ((), _)
    simp only [complete, List.map_map, Option.toList_none, List.append_nil]
    rfl
  rw [effect]
  refine ⟨middle.withScope changed present rfl changedNames, ?_, ?_⟩
  · have progress := (first.mono (List.nil_subset [header.scope])).trans
      (progress_withScope changed present rfl changedNames)
    rwa [List.append_nil] at progress
  · have bound := (List.getElem?_eq_some_iff.mp present).1
    rw [← owner]
    exact List.getElem?_set_self bound

end Import

namespace ImportState

variable {sources : ImportSources} {batch : List ClassInfo} {reported : List Diagnostic}
variable {state : ImportState}

/-- A state with one more diagnostic. -/
def reporting (state : ImportState) (diagnostic : Diagnostic) : ImportState :=
  { state with diagnostics := state.diagnostics ++ [diagnostic] }

theorem Sound.reporting (sound : state.Sound sources batch reported) (diagnostic : Diagnostic) :
    (state.reporting diagnostic).Sound sources batch (reported ++ [diagnostic]) :=
  ⟨⟨sound.distinct, sound.declared, sound.layout, by
      rw [← List.append_assoc]
      exact sound.diagnostics.append_right [diagnostic], sound.defects⟩,
    sound.known, sound.covered, sound.asked, sound.loaded⟩

theorem progress_reporting (state : ImportState) (diagnostic : Diagnostic) :
    state.Progress sources batch [] [] (state.reporting diagnostic) :=
  ⟨⟨List.prefix_rfl, List.prefix_rfl, List.Subset.refl _, fun _ _ _ => rfl, id⟩, by simp,
    fun justified _ => ⟨justified.classes, justified.requests⟩⟩

/-- The header of a scope of a class in the table. -/
theorem WellFormed.nodup_of_mem_headers (wellFormed : state.WellFormed reported)
    {found : DeclaredClass} (member : found ∈ state.classes) {header : ScopeHeader}
    (own : header ∈ found.headers) : header.names.Nodup := by
  obtain ⟨next, same⟩ := wellFormed.declared found member
  rw [same] at own
  exact ClassInfo.names_nodup_declaredAt own

theorem WellFormed.scope_lt (wellFormed : state.WellFormed reported) {found : DeclaredClass}
    (member : found ∈ state.classes) {header : ScopeHeader} (own : header ∈ found.headers) :
    header.scope < state.store.scopes.length := by
  obtain ⟨scope, present, -, -⟩ := TypeStore.mem_headers.mp (wellFormed.mem_headers member own)
  exact (List.getElem?_eq_some_iff.mp present).1

end ImportState

theorem DeclaredClass.mem_headers_of_method {declared : DeclaredClass} {method : DeclaredMethod}
    (member : method ∈ declared.methods) {header : ScopeHeader}
    (own : method.header? declared.name = some header) : header ∈ declared.headers :=
  List.mem_append_right _ (List.mem_flatMap.mpr ⟨method, member, Option.mem_toList.mpr own⟩)

theorem ClassInfo.typeParameters_eq_nil {origin : Origin} {next : ScopeId} {info : ClassInfo}
    {method : DeclaredMethod} (member : method ∈ (info.declaredAt origin next).methods)
    {signature : Signature.MethodSignature} (plain : method.generics = .plain signature) :
    signature.typeParameters = [] := by
  obtain ⟨⟨methodInfo, verdict⟩, -, number, rfl⟩ :=
    DeclaredMethod.exists_of_mem_numberEach member
  cases verdict with
  | kept kept =>
    by_cases empty : kept.typeParameters.isEmpty
    · simp only [MethodGenerics.ofVerdict, empty, if_true, MethodGenerics.plain.injEq] at plain
      exact plain ▸ List.isEmpty_iff.mp empty
    · simp [MethodGenerics.ofVerdict, empty] at plain
  | _ => simp [MethodGenerics.ofVerdict] at plain

namespace Import

open ImportState

variable {sources : ImportSources} {batch : List ClassInfo} {reported : List Diagnostic}
variable {state : ImportState} {chain : ScopeChain}

theorem yields_spec {α : Type} {action : Import α} {value : α} {questions : List Question}
    (sound : state.Sound sources batch reported)
    (yields : (surroundings sources chain).Yields (fun later =>
      (∃ reported, later.Sound sources batch reported) ∧ state.Grown [] later)
        action value questions) :
    (action.run state).1 = value ∧ (action.run state).2.Sound sources batch reported ∧
      state.Progress sources batch (questions.filterMap Question.className?) []
        (action.run state).2 := by
  rw [yields state ⟨⟨reported, sound⟩, Grown.refl [] state⟩]
  exact ⟨rfl, askEach_spec sound chain questions⟩

/-- An action that only asks questions, after the scope of a class or of a method in the
table was filled in. -/
theorem completeScope_yields_spec {α : Type} (sound : state.Sound sources batch reported)
    {declared : DeclaredClass} (member : declared ∈ state.classes) {header : ScopeHeader}
    (own : header ∈ declared.headers)
    (visible : ∀ scope ∈ chain, scope < state.store.scopes.length)
    {parameters : List Signature.TypeParameter}
    (names : header.names = parameters.map Signature.TypeParameter.name)
    {action : Import α} {value : Surroundings Id → α} {questions : List Question}
    (yields : ∀ {answers holds}, (surroundings sources chain).AnswersLike answers holds →
      (surroundings sources chain).Yields holds action (value answers) questions) :
    let place := sources.place batch state.store chain
    let result := (do
      completeScope (surroundings sources chain) header.scope parameters
      action : Import α).run state
    result.1 = value place ∧ result.2.Sound sources batch reported ∧
      state.Progress sources batch ((parameters.flatMap Signature.TypeParameter.questions ++
        questions).filterMap Question.className?) [header.scope] result.2 ∧
      result.2.Completes (some header.scope) header.owner (place.parametersOf parameters) := by
  intro place result
  have ⟨middle, first, complete⟩ := completeScope_spec header parameters sound visible
    (sound.mem_headers member own) (sound.nodup_of_mem_headers member own) names
  have effect : result = action.run
      ((completeScope (surroundings sources chain) header.scope parameters).run state).2 :=
    rfl
  rw [effect]
  generalize ((completeScope (surroundings sources chain) header.scope
    parameters).run state).2 = completed at *
  have visibleLater : ∀ scope ∈ chain, scope < completed.store.scopes.length :=
    fun scope listed => Nat.lt_of_lt_of_le (visible scope listed) first.scopes_le
  have ⟨answer, after, second⟩ := yields_spec middle
    (yields (surroundings_answersLike sources batch [] visibleLater))
  rw [place_eq visible first.toGrown] at answer
  have progress := first.trans (second.mono (List.nil_subset [header.scope]))
  rw [← List.filterMap_append] at progress
  refine ⟨answer, after, progress, ?_⟩
  rintro found ⟨⟩
  have bound : header.scope < completed.store.scopes.length :=
    Nat.lt_of_lt_of_le (sound.scope_lt member own) first.scopes_le
  rw [second.untouched header.scope bound List.not_mem_nil]
  exact complete

/-- A method was resolved: it got the types that its signature or its descriptor means in
its place, and what is left of its signature says what else has happened. -/
structure MethodResolution (sources : ImportSources) (batch : List ClassInfo)
    (reported : List Diagnostic) (chain : ScopeChain) (className : String)
    (method : DeclaredMethod) (before : ImportState) (result : ImportedMethod × ImportState) :
    Prop where
  value : result.1 = sources.resolvedMethod batch before.store chain method
  sound : result.2.Sound sources batch
    (reported ++ method.info.resolutionDiagnostics className method.generics.signature?)
  progress : before.Progress sources batch
    ((method.info.typeQuestions method.generics.signature?).filterMap Question.className?)
    method.generics.scope.toList result.2
  scope : result.2.Completes method.generics.scope (.ofMethod className method.info.key)
    ((sources.place batch before.store (method.generics.scope.toList ++ chain)).parametersOf
      method.generics.parameters)

theorem resolveMethod_erased_spec (sound : state.Sound sources batch reported)
    (visible : ∀ scope ∈ chain, scope < state.store.scopes.length) (className : String)
    (info : MethodInfo) :
    MethodResolution sources batch reported chain className ⟨info, .erased⟩ state
      ((resolveMethod sources className chain ⟨info, .erased⟩).run state) := by
  have same := surroundings_answersLike sources batch [] visible
  cases parsed : MethodDescriptor.parse info.key.descriptor with
  | ok descriptor =>
    have ⟨value, after, progress⟩ := yields_spec sound
      (Surroundings.erasedMethodTypes_yields same descriptor)
    have effect : (resolveMethod sources className chain ⟨info, .erased⟩).run state =
        (⟨info, none, (((surroundings sources chain).erasedMethodTypes descriptor).run state).1⟩,
          (((surroundings sources chain).erasedMethodTypes descriptor).run state).2) := by
      simp only [resolveMethod, parsed]
      rfl
    rw [effect, value]
    refine ⟨?_, ?_, ?_, nofun⟩
    · simp only [ImportSources.resolvedMethod, Surroundings.methodTypesOf,
        MethodGenerics.signature?, MethodGenerics.scope, parsed]
      rfl
    · simpa only [MethodInfo.resolutionDiagnostics, MethodGenerics.signature?, parsed,
        List.append_nil] using after
    · simp only [MethodInfo.typeQuestions, MethodGenerics.signature?, parsed]
      exact progress
  | error error =>
    have effect : (resolveMethod sources className chain ⟨info, .erased⟩).run state =
        (⟨info, none, ⟨[], none, []⟩⟩, state.reporting
          (.malformedDescriptor (.ofMethod className info.key) error)) := by
      simp only [resolveMethod, parsed]
      rfl
    rw [effect]
    refine ⟨?_, ?_, ?_, nofun⟩
    · simp only [ImportSources.resolvedMethod, Surroundings.methodTypesOf,
        MethodGenerics.signature?, MethodGenerics.scope, parsed]
    · simpa only [MethodInfo.resolutionDiagnostics, MethodGenerics.signature?, parsed]
        using sound.reporting _
    · simp only [MethodInfo.typeQuestions, MethodGenerics.signature?, parsed]
      exact progress_reporting state _

theorem resolveMethod_plain_spec (sound : state.Sound sources batch reported)
    (visible : ∀ scope ∈ chain, scope < state.store.scopes.length) (className : String)
    (info : MethodInfo) {signature : Signature.MethodSignature}
    (noParameters : signature.typeParameters = []) :
    MethodResolution sources batch reported chain className ⟨info, .plain signature⟩ state
      ((resolveMethod sources className chain ⟨info, .plain signature⟩).run state) := by
  have same := surroundings_answersLike sources batch [] visible
  have ⟨value, after, progress⟩ := yields_spec sound
    (Surroundings.methodTypes_yields same signature)
  have effect : (resolveMethod sources className chain ⟨info, .plain signature⟩).run state =
      (⟨info, none, (((surroundings sources chain).methodTypes signature).run state).1⟩,
        (((surroundings sources chain).methodTypes signature).run state).2) :=
    rfl
  rw [effect, value]
  refine ⟨rfl, ?_, ?_, nofun⟩
  · simpa only [MethodInfo.resolutionDiagnostics, MethodGenerics.signature?, List.append_nil]
      using after
  · simp only [MethodInfo.typeQuestions, MethodGenerics.signature?, noParameters]
    exact progress

theorem resolveMethod_generic_spec (sound : state.Sound sources batch reported)
    (visible : ∀ scope ∈ chain, scope < state.store.scopes.length)
    {declared : DeclaredClass} (member : declared ∈ state.classes) {info : MethodInfo}
    {scope : ScopeId} {signature : Signature.MethodSignature}
    (own : ⟨scope, .ofMethod declared.name info.key, signature.parameterNames⟩ ∈
      declared.headers) :
    MethodResolution sources batch reported chain declared.name ⟨info, .generic scope signature⟩
      state ((resolveMethod sources declared.name chain ⟨info, .generic scope signature⟩).run
        state) := by
  have visibleInside : ∀ visible ∈ scope :: chain, visible < state.store.scopes.length :=
    List.forall_mem_cons.mpr ⟨sound.scope_lt member own, visible⟩
  have ⟨value, after, progress, complete⟩ := completeScope_yields_spec sound member own
    visibleInside rfl fun same => Surroundings.methodTypes_yields same signature
  have effect : (resolveMethod sources declared.name chain ⟨info, .generic scope signature⟩).run
      state =
        let types := (do
          completeScope (surroundings sources (scope :: chain)) scope signature.typeParameters
          (surroundings sources (scope :: chain)).methodTypes signature :
            Import MethodTypes).run state
        (⟨info, some scope, types.1⟩, types.2) :=
    rfl
  rw [effect]
  simp only [value]
  refine ⟨rfl, ?_, progress, complete⟩
  simpa only [MethodInfo.resolutionDiagnostics, MethodGenerics.signature?, List.append_nil]
    using after

theorem resolveMethod_spec (sound : state.Sound sources batch reported)
    {declared : DeclaredClass} (member : declared ∈ state.classes) {method : DeclaredMethod}
    (own : method ∈ declared.methods)
    (visible : ∀ scope ∈ chain, scope < state.store.scopes.length) :
    MethodResolution sources batch reported chain declared.name method state
      ((resolveMethod sources declared.name chain method).run state) := by
  obtain ⟨info, generics⟩ := method
  cases generics with
  | erased => exact resolveMethod_erased_spec sound visible declared.name info
  | plain signature =>
    obtain ⟨next, shape⟩ := sound.declared declared member
    rw [shape] at own
    exact resolveMethod_plain_spec sound visible declared.name info
      (ClassInfo.typeParameters_eq_nil own rfl)
  | generic scope signature =>
    exact resolveMethod_generic_spec sound visible member
      (DeclaredClass.mem_headers_of_method own rfl)

end Import

namespace ImportState

variable {sources : ImportSources} {batch : List ClassInfo} {reported : List Diagnostic}
variable {state : ImportState} {chain : ScopeChain}

/-- The scopes visible in a method of a class in the table are declared. -/
theorem WellFormed.visible_method (wellFormed : state.WellFormed reported)
    {declared : DeclaredClass} (member : declared ∈ state.classes) {method : DeclaredMethod}
    (own : method ∈ declared.methods)
    (visible : ∀ scope ∈ chain, scope < state.store.scopes.length) :
    ∀ scope ∈ method.generics.scope.toList ++ chain, scope < state.store.scopes.length := by
  refine List.forall_mem_append.mpr ⟨fun scope listed => ?_, visible⟩
  have header : (method.header? declared.name).map ScopeHeader.scope = some scope := by
    rw [DeclaredMethod.header?, Option.mem_toList.mp listed]
    rfl
  obtain ⟨found, isHeader, rfl⟩ := Option.map_eq_some_iff.mp header
  exact wellFormed.scope_lt member (DeclaredClass.mem_headers_of_method own isHeader)

/-- What becomes of the methods of a class is not changed by later scopes. -/
theorem WellFormed.resolvedMethods_eq (wellFormed : state.WellFormed reported)
    {declared : DeclaredClass} (member : declared ∈ state.classes)
    {methods : List DeclaredMethod} (own : ∀ method ∈ methods, method ∈ declared.methods)
    (visible : ∀ scope ∈ chain, scope < state.store.scopes.length) {touched : List ScopeId}
    {later : ImportState} (grown : state.Grown touched later) :
    methods.map (sources.resolvedMethod batch later.store chain) =
      methods.map (sources.resolvedMethod batch state.store chain) := by
  refine List.map_congr_left fun method listed => ?_
  rw [ImportSources.resolvedMethod, ImportSources.resolvedMethod,
    place_eq (wellFormed.visible_method member (own method listed) visible) grown]

end ImportState

namespace Import

open ImportState

variable {sources : ImportSources} {batch : List ClassInfo} {reported : List Diagnostic}
variable {state : ImportState} {chain : ScopeChain}

theorem resolveMethods_spec {declared : DeclaredClass} {methods : List DeclaredMethod}
    (sound : state.Sound sources batch reported) (member : declared ∈ state.classes)
    (own : ∀ method ∈ methods, method ∈ declared.methods)
    (distinct : (methods.flatMap fun method => method.generics.scope.toList).Nodup)
    (visible : ∀ scope ∈ chain, scope < state.store.scopes.length) :
    let after := ((methods.mapM (resolveMethod sources declared.name chain)).run state).2
    ((methods.mapM (resolveMethod sources declared.name chain)).run state).1 =
        methods.map (sources.resolvedMethod batch state.store chain) ∧
      after.Sound sources batch (reported ++ methods.flatMap fun method =>
        method.info.resolutionDiagnostics declared.name method.generics.signature?) ∧
      state.Progress sources batch ((methods.flatMap fun method =>
          method.info.typeQuestions method.generics.signature?).filterMap Question.className?)
        (methods.flatMap fun method => method.generics.scope.toList) after ∧
      ∀ method ∈ methods, after.Completes method.generics.scope
        (.ofMethod declared.name method.info.key)
        ((sources.place batch state.store (method.generics.scope.toList ++ chain)).parametersOf
          method.generics.parameters) := by
  induction methods generalizing state reported with
  | nil =>
    refine ⟨rfl, ?_, Progress.refl [] state, by simp⟩
    rw [List.flatMap_nil, List.append_nil]
    exact sound
  | cons method rest ih =>
    rw [List.forall_mem_cons] at own
    rw [List.flatMap_cons, List.nodup_append'] at distinct
    obtain ⟨-, restDistinct, disjoint⟩ := distinct
    have ⟨value, middle, first, complete⟩ := resolveMethod_spec sound member own.1 visible
    rw [List.mapM_cons, run_bind]
    simp only [run_bind, run_pure, value]
    generalize ((resolveMethod sources declared.name chain method).run state).2 = next at *
    have visibleNext : ∀ scope ∈ chain, scope < next.store.scopes.length := fun scope listed =>
      Nat.lt_of_lt_of_le (visible scope listed) first.scopes_le
    have ⟨values, after, second, completes⟩ :=
      ih middle (first.classes.subset member) own.2 restDistinct visibleNext
    have places (other : DeclaredMethod) (listed : other ∈ rest) :
        sources.place batch next.store (other.generics.scope.toList ++ chain) =
          sources.place batch state.store (other.generics.scope.toList ++ chain) :=
      place_eq (sound.visible_method member (own.2 other listed) visible) first.toGrown
    refine ⟨?_, ?_, ?_, List.forall_mem_cons.mpr ⟨?_, fun other listed => ?_⟩⟩
    · rw [values, List.map_cons, sound.resolvedMethods_eq member own.2 visible first.toGrown]
    · rwa [List.flatMap_cons, ← List.append_assoc]
    · rw [List.flatMap_cons, List.filterMap_append, List.flatMap_cons]
      exact (first.mono (List.subset_append_left _ _)).trans
        (second.mono (List.subset_append_right _ _))
    · refine complete.mono second.toGrown fun scope same => disjoint ?_
      exact Option.mem_toList.mpr same
    · rw [← places other listed]
      exact completes other listed

end Import

end JvmGenerics
