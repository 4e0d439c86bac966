import JvmGenerics.Proofs.Import.Verdict

/-!
# The effect of a declaration

The declaration of a class adds its scopes to the end of the store, and its diagnostics
and events to those that were there. Nothing else of the state plays a part in it, as
long as the class has no scopes yet.
-/

namespace JvmGenerics

/-- A scope as it is declared. -/
def ScopeHeader.placeholder (header : ScopeHeader) : Scope :=
  Scope.placeholder header.owner header.names

/-- A state with further scopes, diagnostics and events. -/
def ImportState.declaring (state : ImportState) (headers : List ScopeHeader)
    (diagnostics : List Diagnostic) (events : List Event) : ImportState :=
  { state with
    store := ⟨state.store.scopes ++ headers.map ScopeHeader.placeholder⟩
    diagnostics := state.diagnostics ++ diagnostics
    events := state.events ++ events }

/-- A state with one class more, and with the scopes, diagnostics and events of its
declaration. -/
def ImportState.adding (state : ImportState) (declared : DeclaredClass) : ImportState :=
  { state.declaring declared.headers declared.info.declarationDiagnostics
      declared.info.declarationEvents with
    classes := state.classes ++ [declared] }

namespace ImportState

@[simp]
theorem declaring_nil (state : ImportState) : state.declaring [] [] [] = state := by
  simp [declaring]

theorem declaring_declaring (state : ImportState) (headers more : List ScopeHeader)
    (diagnostics moreDiagnostics : List Diagnostic) (events moreEvents : List Event) :
    (state.declaring headers diagnostics events).declaring more moreDiagnostics moreEvents =
      state.declaring (headers ++ more) (diagnostics ++ moreDiagnostics)
        (events ++ moreEvents) := by
  simp [declaring]

/-- The owners of all declared scopes. -/
def owners (state : ImportState) : List Owner :=
  state.store.scopes.map Scope.owner

@[simp]
theorem owners_declaring (state : ImportState) (headers : List ScopeHeader)
    (diagnostics : List Diagnostic) (events : List Event) :
    (state.declaring headers diagnostics events).owners =
      state.owners ++ headers.map ScopeHeader.owner := by
  simp [declaring, owners, ScopeHeader.placeholder, Scope.placeholder, Function.comp_def]

theorem length_declaring (state : ImportState) (headers : List ScopeHeader)
    (diagnostics : List Diagnostic) (events : List Event) :
    (state.declaring headers diagnostics events).store.scopes.length =
      state.store.scopes.length + headers.length := by
  simp [declaring]

/-- The headers of further scopes that are numbered from the end of the store on. -/
theorem headers_declaring {state : ImportState} {headers : List ScopeHeader}
    (numbered : headers.map ScopeHeader.scope =
      List.range' state.store.scopes.length headers.length)
    (diagnostics : List Diagnostic) (events : List Event) :
    (state.declaring headers diagnostics events).store.headers =
      state.store.headers ++ headers := by
  rw [declaring, TypeStore.headers_append]
  congr 1
  apply List.ext_getElem
  · simp
  · intro index first second
    have scope : headers[index].scope = state.store.scopes.length + index := by
      have entry := congrArg (fun scopes => scopes[index]?) numbered
      simpa [second, List.getElem?_range'] using entry
    have names : (headers[index].placeholder).names = headers[index].names :=
      Scope.names_placeholder _ _
    simp only [List.getElem_mapIdx, List.getElem_map, names, Nat.add_comm index, ← scope]
    rfl

theorem scopeOf?_isSome_iff (state : ImportState) (owner : Owner) :
    (state.store.scopeOf? owner).isSome ↔ owner ∈ state.owners := by
  simp [TypeStore.scopeOf?, owners]

end ImportState

namespace Import

/-- One action after the other, on a state. -/
theorem run_bind {α β : Type} (action : Import α) (next : α → Import β) (state : ImportState) :
    (action >>= next).run state = (next (action.run state).1).run (action.run state).2 :=
  rfl

theorem run_pure {α : Type} (value : α) (state : ImportState) :
    (pure value : Import α).run state = (value, state) :=
  rfl

theorem declareScope_of_refusal {state : ImportState} {owner : Owner}
    {parameters : List Signature.TypeParameter} {error : ScopeError}
    (refused : state.store.declare owner (parameters.map Signature.TypeParameter.name) =
      .error error) :
    (declareScope owner parameters).run state =
      (none, state.declaring [] [.invalidTypeParameters error] [.typeParametersIgnored error]) := by
  simp only [declareScope, StateT.run_bind, StateT.run_get, pure_bind, refused]
  simp [log, report, ImportState.declaring]
  rfl

theorem declareScope_of_success {state : ImportState} {owner : Owner}
    (parameters : List Signature.TypeParameter) (fresh : owner ∉ state.owners)
    (distinct : firstRepeat [] (parameters.map Signature.TypeParameter.name) = none) :
    (declareScope owner parameters).run state =
      (some state.store.scopes.length, state.declaring
        [⟨state.store.scopes.length, owner, parameters.map Signature.TypeParameter.name⟩]
        [] []) := by
  have absent : state.store.scopeOf? owner = none := by
    rw [← ImportState.scopeOf?_isSome_iff] at fresh
    simpa using fresh
  simp only [declareScope, StateT.run_bind, StateT.run_get, pure_bind,
    TypeStore.declare_of_fresh absent distinct]
  simp [ImportState.declaring, ScopeHeader.placeholder]
  rfl

theorem dropSignature_run (state : ImportState) (element : Owner)
    (error : Signature.ParseError) :
    (dropSignature element error).run state =
      ((), state.declaring [] [.malformedSignature element error]
        [.malformedSignature element error]) := by
  simp [dropSignature, log, report, ImportState.declaring]
  rfl

theorem declareClassScope_run {state : ImportState} {info : ClassInfo}
    (fresh : Owner.ofClass info.name ∉ state.owners) :
    let generics := ClassGenerics.ofVerdict state.store.scopes.length info.verdict
    (declareClassScope info).run state =
      (generics, state.declaring (generics.header? info.name).toList
        (info.verdict.diagnostics (.ofClass info.name))
        (info.verdict.events (.ofClass info.name))) := by
  intro generics
  have withoutParameters (current : ImportState)
      (absent : Owner.ofClass info.name ∉ current.owners) := declareScope_of_success [] absent rfl
  unfold declareClassScope
  cases parsed : info.signature.map Signature.parseClass with
  | none =>
    have verdict : info.verdict = .absent := by simp [ClassInfo.verdict, parsed]
    simp only [run_bind, withoutParameters state fresh, run_pure]
    simp [generics, verdict, ClassGenerics.ofVerdict, ClassGenerics.header?, ClassGenerics.scope,
      ClassGenerics.signature?, Verdict.diagnostics, Verdict.events]
  | some result =>
    cases result with
    | error error =>
      have verdict : info.verdict = .malformed error := by simp [ClassInfo.verdict, parsed]
      have stillFresh : Owner.ofClass info.name ∉ (state.declaring []
          [.malformedSignature (.ofClass info.name) error]
          [.malformedSignature (.ofClass info.name) error]).owners := by
        simpa using fresh
      simp only [run_bind, dropSignature_run, withoutParameters _ stillFresh, run_pure,
        ImportState.declaring_declaring]
      simp [generics, verdict, ClassGenerics.ofVerdict, ClassGenerics.header?, ClassGenerics.scope,
        ClassGenerics.signature?, Verdict.diagnostics, Verdict.events, ImportState.declaring]
    | ok signature =>
      cases repeated : firstRepeat [] signature.parameterNames with
      | none =>
        have verdict : info.verdict = .kept signature := by
          simp [ClassInfo.verdict, parsed, Owner.verdict, repeated]
        simp only [run_bind, declareScope_of_success _ fresh repeated, run_pure]
        simp [generics, verdict, ClassGenerics.ofVerdict, ClassGenerics.header?,
          ClassGenerics.scope, ClassGenerics.signature?, Verdict.diagnostics, Verdict.events,
          Signature.ClassSignature.parameterNames]
      | some name =>
        have verdict : info.verdict = .refused (.duplicateParameter (.ofClass info.name) name) := by
          simp [ClassInfo.verdict, parsed, Owner.verdict, repeated]
        have refused := TypeStore.declare_of_repeat
          (Option.not_isSome_iff_eq_none.mp fun present =>
            fresh ((state.scopeOf?_isSome_iff _).mp present)) repeated
        simp only [run_bind, declareScope_of_refusal refused, run_pure]
        simp [generics, verdict, ClassGenerics.ofVerdict, ClassGenerics.header?,
          ClassGenerics.scope, ClassGenerics.signature?, Verdict.diagnostics, Verdict.events]

theorem declareMethod_run {state : ImportState} {className : String} {taken : List MethodKey}
    (known : ∀ key, Owner.ofMethod className key ∈ state.owners ↔ key ∈ taken)
    (info : MethodInfo) :
    let verdict := info.verdict className taken
    let declared : DeclaredMethod := ⟨info, .ofVerdict state.store.scopes.length verdict⟩
    (declareMethod className info).run state =
      (declared, state.declaring (declared.header? className).toList
        (verdict.diagnostics (.ofMethod className info.key))
        (verdict.events (.ofMethod className info.key))) := by
  intro verdict declared
  unfold declareMethod
  cases parsed : info.signature.map Signature.parseMethod with
  | none =>
    have absent : verdict = .absent := by simp [verdict, MethodInfo.verdict, parsed]
    simp only [run_pure]
    simp [declared, absent, MethodGenerics.ofVerdict, DeclaredMethod.header?, MethodGenerics.scope,
      MethodGenerics.signature?, Verdict.diagnostics, Verdict.events]
  | some result =>
    cases result with
    | error error =>
      have malformed : verdict = .malformed error := by simp [verdict, MethodInfo.verdict, parsed]
      simp only [run_bind, dropSignature_run, run_pure]
      simp [declared, malformed, MethodGenerics.ofVerdict, DeclaredMethod.header?,
        MethodGenerics.scope, MethodGenerics.signature?, Verdict.diagnostics, Verdict.events]
    | ok signature =>
      by_cases plain : signature.typeParameters.isEmpty
      · have kept : verdict = .kept signature := by
          simp [verdict, MethodInfo.verdict, parsed, plain]
        simp only [plain, if_true, run_pure]
        simp [declared, kept, MethodGenerics.ofVerdict, DeclaredMethod.header?,
          MethodGenerics.scope, MethodGenerics.signature?, Verdict.diagnostics, Verdict.events,
          plain]
      · simp only [if_neg plain]
        by_cases present : info.key ∈ taken
        · have refused : verdict = .refused (.alreadyDeclared (.ofMethod className info.key)) := by
            simp [verdict, MethodInfo.verdict, parsed, plain, present]
          have error := TypeStore.declare_of_present
            (signature.typeParameters.map Signature.TypeParameter.name)
            ((state.scopeOf?_isSome_iff _).mpr ((known info.key).mpr present))
          simp only [run_bind, declareScope_of_refusal error, run_pure]
          simp [declared, refused, MethodGenerics.ofVerdict, DeclaredMethod.header?,
            MethodGenerics.scope, MethodGenerics.signature?, Verdict.diagnostics, Verdict.events]
        · have fresh : Owner.ofMethod className info.key ∉ state.owners :=
            fun member => present ((known info.key).mp member)
          cases repeated : firstRepeat [] signature.parameterNames with
          | none =>
            have kept : verdict = .kept signature := by
              simp [verdict, MethodInfo.verdict, parsed, plain, present, Owner.verdict, repeated]
            simp only [run_bind, declareScope_of_success _ fresh repeated, run_pure]
            simp [declared, kept, MethodGenerics.ofVerdict, DeclaredMethod.header?,
              MethodGenerics.scope, MethodGenerics.signature?, Verdict.diagnostics, Verdict.events,
              plain,
              Signature.MethodSignature.parameterNames]
          | some name =>
            have refused : verdict =
                .refused (.duplicateParameter (.ofMethod className info.key) name) := by
              simp [verdict, MethodInfo.verdict, parsed, plain, present, Owner.verdict, repeated]
            have error := TypeStore.declare_of_repeat
              (Option.not_isSome_iff_eq_none.mp fun member =>
                fresh ((state.scopeOf?_isSome_iff _).mp member)) repeated
            simp only [run_bind, declareScope_of_refusal error, run_pure]
            simp [declared, refused, MethodGenerics.ofVerdict, DeclaredMethod.header?,
              MethodGenerics.scope, MethodGenerics.signature?, Verdict.diagnostics, Verdict.events]

theorem declareMethods_run {state : ImportState} {className : String} {taken : List MethodKey}
    (known : ∀ key, Owner.ofMethod className key ∈ state.owners ↔ key ∈ taken)
    (infos : List MethodInfo) :
    let verdicts := MethodInfo.verdictEach className taken infos
    let methods := DeclaredMethod.numberEach state.store.scopes.length verdicts
    (infos.mapM (declareMethod className)).run state =
      (methods, state.declaring (methods.flatMap fun method => (method.header? className).toList)
        (verdicts.flatMap fun method => method.2.diagnostics (.ofMethod className method.1.key))
        (verdicts.flatMap fun method => method.2.events (.ofMethod className method.1.key))) := by
  induction infos generalizing state taken with
  | nil =>
    simp [MethodInfo.verdictEach, DeclaredMethod.numberEach]
    rfl
  | cons info rest ih =>
    intro verdicts methods
    have first := declareMethod_run known info
    have owner := DeclaredMethod.header?_ofVerdict className info state.store.scopes.length
      (info.verdict className taken)
    have length (found : Option ScopeHeader)
        (same : found.map ScopeHeader.owner = if (info.verdict className taken).isGeneric
          then some (.ofMethod className info.key) else none) :
        state.store.scopes.length + found.toList.length =
          if (info.verdict className taken).isGeneric then state.store.scopes.length + 1
          else state.store.scopes.length := by
      rw [← List.length_map ScopeHeader.owner, ← Option.toList_map, same]
      split <;> rfl
    -- The next method finds one scope more exactly if this one is generic.
    have knownAfter (diagnostics : List Diagnostic) (events : List Event) (key : MethodKey) :=
      show Owner.ofMethod className key ∈ (state.declaring _ diagnostics events).owners ↔
          key ∈ if (info.verdict className taken).isGeneric then info.key :: taken else taken by
        rw [ImportState.owners_declaring, List.mem_append, known, ← Option.toList_map, owner]
        split <;> simp [or_comm]
    rw [List.mapM_cons, run_bind, first]
    simp only [run_bind, run_pure]
    rw [ih (knownAfter _ _)]
    simp only [ImportState.declaring_declaring, ImportState.length_declaring,
      length _ owner]
    simp only [methods, verdicts, MethodInfo.verdictEach, DeclaredMethod.numberEach,
      List.flatMap_cons]

/-- The effect of the declaration of a class whose scopes are not declared yet. -/
theorem declareClass_run {state : ImportState} (origin : Origin) {info : ClassInfo}
    (fresh : ∀ owner ∈ state.owners, owner.className ≠ info.name) :
    let declared := info.declaredAt origin state.store.scopes.length
    (declareClass origin info).run state = (declared, state.adding declared) := by
  intro declared
  have freshClass : Owner.ofClass info.name ∉ state.owners :=
    fun member => fresh _ member rfl
  have classScope := declareClassScope_run freshClass
  set generics := ClassGenerics.ofVerdict state.store.scopes.length info.verdict with generics_def
  have owner : ∀ header ∈ (generics.header? info.name).toList,
      header.owner = .ofClass info.name := by
    simp only [Option.mem_toList, ClassGenerics.header?, Option.map_eq_some_iff]
    rintro header ⟨scope, -, rfl⟩
    rfl
  have length : (generics.header? info.name).toList.length = generics.scope.toList.length := by
    rw [ClassGenerics.header?, Option.toList_map, List.length_map]
  have noMethod (diagnostics : List Diagnostic) (events : List Event) (key : MethodKey) :
      Owner.ofMethod info.name key ∈ (state.declaring (generics.header? info.name).toList
        diagnostics events).owners ↔ key ∈ ([] : List MethodKey) := by
    simp only [ImportState.owners_declaring, List.mem_append, List.mem_map, List.not_mem_nil,
      iff_false, not_or, not_exists, not_and]
    exact ⟨fun member => fresh _ member rfl, fun header member same => by
      rw [owner header member] at same; cases same⟩
  unfold declareClass
  rw [run_bind, classScope]
  simp only [run_bind, run_pure]
  rw [declareMethods_run (noMethod _ _)]
  simp only [ImportState.length_declaring, length, ImportState.declaring_declaring]
  rfl

end Import

end JvmGenerics
