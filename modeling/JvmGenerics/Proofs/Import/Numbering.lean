import JvmGenerics.Proofs.Import.Table

/-!
# The numbers of the scopes

Scopes are numbered without gaps in the order of the table, so the table follows from its
classes and their origins: no class can stand in it with other numbers than those that it
gets if the classes are declared one after the other.
-/

namespace JvmGenerics

/-- The classes that are declared one after the other, where the first scope gets the number
`next`. -/
def ClassInfo.declareEach : ScopeId → List (Origin × ClassInfo) → List DeclaredClass
  | _, [] => []
  | next, (origin, info) :: rest =>
    let declared := info.declaredAt origin next
    declared :: declareEach (next + declared.headers.length) rest

theorem DeclaredMethod.numberEach_of_unscoped {className : String} {next : ScopeId}
    {verdicts : List (MethodInfo × Verdict Signature.MethodSignature)}
    (unscoped : ((numberEach next verdicts).flatMap fun method =>
      (method.header? className).toList) = []) (other : ScopeId) :
    numberEach other verdicts = numberEach next verdicts := by
  induction verdicts generalizing next other with
  | nil => rfl
  | cons method rest ih =>
    obtain ⟨info, verdict⟩ := method
    simp only [numberEach, List.flatMap_cons, List.append_eq_nil_iff] at unscoped ⊢
    obtain ⟨own, others⟩ := unscoped
    rw [ih others]
    cases verdict with
    | kept signature =>
      by_cases plain : signature.typeParameters.isEmpty
      · simp [MethodGenerics.ofVerdict, plain]
      · simp [header?, MethodGenerics.ofVerdict, MethodGenerics.scope, plain] at own
    | _ => rfl

/-- A class without scopes is declared in the same way at any moment. -/
theorem ClassInfo.declaredAt_of_unscoped {origin : Origin} {next : ScopeId} {info : ClassInfo}
    (unscoped : (info.declaredAt origin next).headers = []) (other : ScopeId) :
    info.declaredAt origin other = info.declaredAt origin next := by
  rw [DeclaredClass.headers, List.append_eq_nil_iff] at unscoped
  obtain ⟨own, methods⟩ := unscoped
  simp only [declaredAt] at own methods ⊢
  cases verdict : info.verdict with
  | refused error =>
    rw [verdict] at methods
    rw [DeclaredMethod.numberEach_of_unscoped methods]
    rfl
  | _ =>
    simp [verdict, ClassGenerics.header?, ClassGenerics.ofVerdict, ClassGenerics.scope] at own

/-- The scopes of a class tell at which number it was declared. -/
theorem ClassInfo.declaredAt_eq_of_scopes {origin : Origin} {number next : ScopeId}
    {info : ClassInfo} (scopes : (info.declaredAt origin number).headers.map ScopeHeader.scope =
      List.range' next (info.declaredAt origin number).headers.length) :
    info.declaredAt origin number = info.declaredAt origin next := by
  cases headers : (info.declaredAt origin number).headers with
  | nil => exact (declaredAt_of_unscoped headers next).symm
  | cons header rest =>
    have numbered := info.scopes_declaredAt origin number
    rw [scopes, headers, List.length_cons, List.range'_succ, List.range'_succ,
      List.cons.injEq] at numbered
    rw [numbered.1]

/-- Classes that stand as they were declared, with scopes numbered without gaps, were
declared one after the other. -/
theorem ClassInfo.eq_declareEach {classes : List DeclaredClass} {next : ScopeId}
    (declared : ∀ found ∈ classes, ∃ number, found = found.info.declaredAt found.origin number)
    (numbered : (classes.flatMap DeclaredClass.headers).map ScopeHeader.scope =
      List.range' next (classes.flatMap DeclaredClass.headers).length) :
    classes = declareEach next (classes.map fun found => (found.origin, found.info)) := by
  induction classes generalizing next with
  | nil => rfl
  | cons found rest ih =>
    rw [List.forall_mem_cons] at declared
    obtain ⟨⟨number, shape⟩, others⟩ := declared
    rw [List.flatMap_cons, List.map_append, List.length_append, ← List.range'_append_1]
      at numbered
    obtain ⟨own, further⟩ := List.append_inj numbered (by simp)
    have first : found = found.info.declaredAt found.origin next := by
      rw [shape] at own
      exact shape.trans (declaredAt_eq_of_scopes own)
    simp only [List.map_cons, declareEach, ← first]
    rw [← ih others further]

/-- A table follows from its classes and their origins. -/
theorem ImportState.WellFormed.classes_eq {state : ImportState} {reported : List Diagnostic}
    (wellFormed : state.WellFormed reported) :
    state.classes =
      ClassInfo.declareEach 0 (state.classes.map fun found => (found.origin, found.info)) := by
  refine ClassInfo.eq_declareEach wellFormed.declared ?_
  rw [← wellFormed.layout, TypeStore.map_scope_headers, TypeStore.length_headers,
    List.range_eq_range']

end JvmGenerics
