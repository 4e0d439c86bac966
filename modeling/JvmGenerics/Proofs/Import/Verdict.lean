import JvmGenerics.Import.Declare
import JvmGenerics.Proofs.Types.Store
import Mathlib.Data.List.Forall2

/-!
# What a declaration makes of a class

Which signatures of a class survive its declaration is known from the class alone,
and so are its diagnostics and events; all that depends on the moment of the
declaration is where the numbers of its scopes begin.
-/

namespace JvmGenerics

/-- What becomes of the signature of an element. -/
inductive Verdict (α : Type)
  | absent
  | malformed (error : Signature.ParseError)
  | refused (error : ScopeError)
  | kept (signature : α)

namespace Verdict

variable {α : Type}

def kept? : Verdict α → Option α
  | kept signature => some signature
  | _ => none

def diagnostics (owner : Owner) : Verdict α → List Diagnostic
  | malformed error => [.malformedSignature owner error]
  | refused error => [.invalidTypeParameters error]
  | _ => []

def events (owner : Owner) : Verdict α → List Event
  | malformed error => [.malformedSignature owner error]
  | refused error => [.typeParametersIgnored error]
  | _ => []

/-- Whether type parameters of a method are declared. -/
def isGeneric : Verdict Signature.MethodSignature → Bool
  | kept signature => !signature.typeParameters.isEmpty
  | _ => false

end Verdict

namespace Signature

def ClassSignature.parameterNames (signature : ClassSignature) : List String :=
  signature.typeParameters.map TypeParameter.name

def MethodSignature.parameterNames (signature : MethodSignature) : List String :=
  signature.typeParameters.map TypeParameter.name

end Signature

/-- The names of type parameters are refused if one of them repeats an earlier one. -/
def Owner.verdict {α : Type} (owner : Owner) (names : List String) (signature : α) : Verdict α :=
  match firstRepeat [] names with
  | some name => .refused (.duplicateParameter owner name)
  | none => .kept signature

/-- What becomes of the signature of a class. -/
def ClassInfo.verdict (info : ClassInfo) : Verdict Signature.ClassSignature :=
  match info.signature.map Signature.parseClass with
  | none => .absent
  | some (.error error) => .malformed error
  | some (.ok signature) => (Owner.ofClass info.name).verdict signature.parameterNames signature

/-- What becomes of the signature of a method, where the methods in `taken` have
declared type parameters before. -/
def MethodInfo.verdict (className : String) (taken : List MethodKey) (info : MethodInfo) :
    Verdict Signature.MethodSignature :=
  let owner := Owner.ofMethod className info.key
  match info.signature.map Signature.parseMethod with
  | none => .absent
  | some (.error error) => .malformed error
  | some (.ok signature) =>
    if signature.typeParameters.isEmpty then .kept signature
    else if info.key ∈ taken then .refused (.alreadyDeclared owner)
    else owner.verdict signature.parameterNames signature

/-- The verdicts on methods that are declared one after the other. -/
def MethodInfo.verdictEach (className : String) :
    List MethodKey → List MethodInfo → List (MethodInfo × Verdict Signature.MethodSignature)
  | _, [] => []
  | taken, info :: rest =>
    let verdict := info.verdict className taken
    (info, verdict) ::
      verdictEach className (if verdict.isGeneric then info.key :: taken else taken) rest

/-- The verdicts on the methods of a class. -/
def ClassInfo.methodVerdicts (info : ClassInfo) :
    List (MethodInfo × Verdict Signature.MethodSignature) :=
  MethodInfo.verdictEach info.name [] info.methods

/-- The diagnostics of the declaration of a class. -/
def ClassInfo.declarationDiagnostics (info : ClassInfo) : List Diagnostic :=
  info.verdict.diagnostics (.ofClass info.name) ++ info.methodVerdicts.flatMap fun method =>
    method.2.diagnostics (.ofMethod info.name method.1.key)

/-- The events of the declaration of a class. -/
def ClassInfo.declarationEvents (info : ClassInfo) : List Event :=
  info.verdict.events (.ofClass info.name) ++ info.methodVerdicts.flatMap fun method =>
    method.2.events (.ofMethod info.name method.1.key)

namespace ClassGenerics

/-- The signature that is left of a class. -/
def signature? : ClassGenerics → Option Signature.ClassSignature
  | erased _ => none
  | generic _ signature => some signature

/-- What remains of the signature of a class whose scope gets the number `next`. -/
def ofVerdict (next : ScopeId) : Verdict Signature.ClassSignature → ClassGenerics
  | .kept signature => generic next signature
  | .refused _ => erased none
  | _ => erased (some next)

/-- The scope of a class without its bounds. -/
def header? (className : String) (generics : ClassGenerics) : Option ScopeHeader :=
  generics.scope.map fun scope =>
    ⟨scope, .ofClass className, generics.signature?.elim [] (·.parameterNames)⟩

end ClassGenerics

namespace MethodGenerics

/-- The signature that is left of a method. -/
def signature? : MethodGenerics → Option Signature.MethodSignature
  | erased => none
  | plain signature => some signature
  | generic _ signature => some signature

/-- What remains of the signature of a method whose scope gets the number `next`. -/
def ofVerdict (next : ScopeId) : Verdict Signature.MethodSignature → MethodGenerics
  | .kept signature =>
    if signature.typeParameters.isEmpty then plain signature else generic next signature
  | _ => erased

end MethodGenerics

namespace DeclaredMethod

/-- The scope of a method without its bounds. -/
def header? (className : String) (declared : DeclaredMethod) : Option ScopeHeader :=
  declared.generics.scope.map fun scope =>
    ⟨scope, .ofMethod className declared.info.key,
      declared.generics.signature?.elim [] (·.parameterNames)⟩

/-- Methods whose scopes are numbered from `next` on. -/
def numberEach :
    ScopeId → List (MethodInfo × Verdict Signature.MethodSignature) → List DeclaredMethod
  | _, [] => []
  | next, (info, verdict) :: rest =>
    ⟨info, .ofVerdict next verdict⟩ ::
      numberEach (if verdict.isGeneric then next + 1 else next) rest

end DeclaredMethod

namespace DeclaredClass

/-- The scopes of a class and of its methods, without their bounds. -/
def headers (declared : DeclaredClass) : List ScopeHeader :=
  (declared.generics.header? declared.name).toList ++
    declared.methods.flatMap fun method => (method.header? declared.name).toList

end DeclaredClass

/-- A class as it is declared when its first scope gets the number `next`. -/
def ClassInfo.declaredAt (origin : Origin) (next : ScopeId) (info : ClassInfo) : DeclaredClass :=
  let generics := ClassGenerics.ofVerdict next info.verdict
  ⟨info, origin, generics,
    DeclaredMethod.numberEach (next + generics.scope.toList.length) info.methodVerdicts⟩

theorem DeclaredMethod.header?_ofVerdict (className : String) (info : MethodInfo) (next : ScopeId)
    (verdict : Verdict Signature.MethodSignature) :
    (DeclaredMethod.header? className ⟨info, .ofVerdict next verdict⟩).map ScopeHeader.owner =
      if verdict.isGeneric then some (.ofMethod className info.key) else none := by
  cases verdict with
  | kept signature => by_cases plain : signature.typeParameters.isEmpty <;>
      simp [DeclaredMethod.header?, MethodGenerics.ofVerdict, MethodGenerics.scope,
        Verdict.isGeneric, plain]
  | _ => simp [DeclaredMethod.header?, MethodGenerics.ofVerdict, MethodGenerics.scope,
    Verdict.isGeneric]

theorem DeclaredMethod.scopes_numberEach (className : String) (next : ScopeId)
    (verdicts : List (MethodInfo × Verdict Signature.MethodSignature)) :
    let headers := (DeclaredMethod.numberEach next verdicts).flatMap fun method =>
      (method.header? className).toList
    headers.map ScopeHeader.scope = List.range' next headers.length := by
  induction verdicts generalizing next with
  | nil => rfl
  | cons method rest ih =>
    obtain ⟨info, verdict⟩ := method
    simp only [numberEach, List.flatMap_cons, List.map_append, ih, List.length_append]
    cases verdict with
    | kept signature =>
      by_cases plain : signature.typeParameters.isEmpty
      · simp [header?, MethodGenerics.ofVerdict, MethodGenerics.scope, Verdict.isGeneric, plain]
      · simp [header?, MethodGenerics.ofVerdict, MethodGenerics.scope, Verdict.isGeneric, plain,
          Nat.add_comm 1, List.range'_succ]
    | _ => simp [header?, MethodGenerics.ofVerdict, MethodGenerics.scope, Verdict.isGeneric]

/-- The scopes of a class are numbered without gaps, first that of the class itself. -/
theorem ClassInfo.scopes_declaredAt (origin : Origin) (next : ScopeId) (info : ClassInfo) :
    (info.declaredAt origin next).headers.map ScopeHeader.scope =
      List.range' next (info.declaredAt origin next).headers.length := by
  have methods := DeclaredMethod.scopes_numberEach info.name
    (next + (ClassGenerics.ofVerdict next info.verdict).scope.toList.length) info.methodVerdicts
  have class? : ∀ scope, (ClassGenerics.ofVerdict next info.verdict).scope = some scope →
      scope = next := by
    cases info.verdict <;> simp [ClassGenerics.ofVerdict, ClassGenerics.scope, eq_comm]
  simp only [DeclaredClass.headers, List.map_append, List.length_append]
  have name : (info.declaredAt origin next).name = info.name := rfl
  have generics : (info.declaredAt origin next).generics = .ofVerdict next info.verdict := rfl
  have numbered : (info.declaredAt origin next).methods = DeclaredMethod.numberEach
    (next + (ClassGenerics.ofVerdict next info.verdict).scope.toList.length)
      info.methodVerdicts := rfl
  rw [name, generics, numbered, methods]
  cases scope : (ClassGenerics.ofVerdict next info.verdict).scope with
  | none => simp [ClassGenerics.header?, scope]
  | some own =>
    obtain rfl := class? own scope
    simp [ClassGenerics.header?, scope, Nat.add_comm 1, List.range'_succ]

/-- Two ways to number a method's scope. -/
structure DeclaredMethod.Similar (first second : DeclaredMethod) : Prop where
  info : first.info = second.info
  signature? : first.generics.signature? = second.generics.signature?
  scope : first.generics.scope.isSome = second.generics.scope.isSome

theorem DeclaredMethod.numberEach_similar (first second : ScopeId)
    (verdicts : List (MethodInfo × Verdict Signature.MethodSignature)) :
    List.Forall₂ Similar (numberEach first verdicts) (numberEach second verdicts) := by
  induction verdicts generalizing first second with
  | nil => exact .nil
  | cons method rest ih =>
    obtain ⟨info, verdict⟩ := method
    refine .cons ⟨rfl, ?_, ?_⟩ (ih _ _)
    all_goals
      cases verdict with
      | kept signature =>
        by_cases plain : signature.typeParameters.isEmpty <;>
          simp [MethodGenerics.ofVerdict, MethodGenerics.signature?, MethodGenerics.scope, plain]
      | _ => rfl

theorem Owner.nodup_of_verdict {α : Type} {owner : Owner} {names : List String}
    {signature kept : α} (verdict : owner.verdict names signature = .kept kept) :
    names.Nodup ∧ kept = signature := by
  unfold Owner.verdict at verdict
  split at verdict
  · cases verdict
  · next distinct =>
    cases verdict
    exact ⟨(firstRepeat_nil_eq_none_iff names).mp distinct, rfl⟩

/-- Names are refused exactly if one of them repeats. -/
theorem Owner.exists_refused_iff {α : Type} (owner : Owner) (names : List String)
    (signature : α) :
    (∃ error, owner.verdict names signature = .refused error) ↔ ¬ names.Nodup := by
  rw [← firstRepeat_nil_eq_none_iff]
  unfold Owner.verdict
  cases firstRepeat [] names <;> simp

/-- The type parameters of a class that are not refused have different names. -/
theorem ClassInfo.nodup_of_verdict {info : ClassInfo} {signature : Signature.ClassSignature}
    (verdict : info.verdict = .kept signature) : signature.parameterNames.Nodup := by
  unfold ClassInfo.verdict at verdict
  split at verdict
  · cases verdict
  · cases verdict
  · obtain ⟨distinct, rfl⟩ := Owner.nodup_of_verdict verdict
    exact distinct

/-- The type parameters of a method that are not refused have different names. -/
theorem MethodInfo.nodup_of_verdict {className : String} {taken : List MethodKey}
    {info : MethodInfo} {signature : Signature.MethodSignature}
    (verdict : info.verdict className taken = .kept signature) :
    signature.parameterNames.Nodup := by
  unfold MethodInfo.verdict at verdict
  split at verdict
  · cases verdict
  · cases verdict
  · split at verdict
    · next plain =>
      cases verdict
      simp [Signature.MethodSignature.parameterNames, List.isEmpty_iff.mp plain]
    · split at verdict
      · cases verdict
      · obtain ⟨distinct, rfl⟩ := Owner.nodup_of_verdict verdict
        exact distinct

theorem MethodInfo.exists_of_mem_verdictEach {className : String} {taken : List MethodKey}
    {infos : List MethodInfo} {method : MethodInfo × Verdict Signature.MethodSignature}
    (member : method ∈ MethodInfo.verdictEach className taken infos) :
    ∃ before, method.2 = method.1.verdict className before := by
  induction infos generalizing taken with
  | nil => cases member
  | cons info rest ih =>
    rw [MethodInfo.verdictEach, List.mem_cons] at member
    rcases member with rfl | member
    · exact ⟨taken, rfl⟩
    · exact ih member

theorem DeclaredMethod.exists_of_mem_numberEach {next : ScopeId}
    {verdicts : List (MethodInfo × Verdict Signature.MethodSignature)}
    {declared : DeclaredMethod} (member : declared ∈ DeclaredMethod.numberEach next verdicts) :
    ∃ method ∈ verdicts, ∃ number, declared = ⟨method.1, .ofVerdict number method.2⟩ := by
  induction verdicts generalizing next with
  | nil => cases member
  | cons method rest ih =>
    rw [DeclaredMethod.numberEach, List.mem_cons] at member
    rcases member with rfl | member
    · exact ⟨method, List.mem_cons_self, next, rfl⟩
    · obtain ⟨other, present, found⟩ := ih member
      exact ⟨other, List.mem_cons_of_mem method present, found⟩

theorem MethodInfo.infos_verdictEach (className : String) (taken : List MethodKey)
    (infos : List MethodInfo) : (verdictEach className taken infos).map Prod.fst = infos := by
  induction infos generalizing taken with
  | nil => rfl
  | cons info rest ih => rw [verdictEach, List.map_cons, ih]

theorem DeclaredMethod.infos_numberEach (next : ScopeId)
    (verdicts : List (MethodInfo × Verdict Signature.MethodSignature)) :
    (numberEach next verdicts).map info = verdicts.map Prod.fst := by
  induction verdicts generalizing next with
  | nil => rfl
  | cons method rest ih => rw [numberEach, List.map_cons, List.map_cons, ih]

theorem ClassInfo.methods_declaredAt (origin : Origin) (next : ScopeId) (info : ClassInfo) :
    (info.declaredAt origin next).methods.map DeclaredMethod.info = info.methods :=
  (DeclaredMethod.infos_numberEach _ _).trans (MethodInfo.infos_verdictEach _ _ _)

theorem ClassInfo.names_nodup_declaredAt {origin : Origin} {next : ScopeId} {info : ClassInfo}
    {header : ScopeHeader} (member : header ∈ (info.declaredAt origin next).headers) :
    header.names.Nodup := by
  simp only [DeclaredClass.headers, List.mem_append, Option.mem_toList, List.mem_flatMap,
    ClassGenerics.header?, DeclaredMethod.header?, Option.map_eq_some_iff] at member
  rcases member with ⟨scope, -, rfl⟩ | ⟨method, member, scope, -, rfl⟩
  · simp only [ClassInfo.declaredAt]
    cases verdict : info.verdict with
    | kept signature =>
      simpa [ClassGenerics.ofVerdict, ClassGenerics.signature?] using
        ClassInfo.nodup_of_verdict verdict
    | _ => simp [ClassGenerics.ofVerdict, ClassGenerics.signature?]
  · obtain ⟨⟨info, verdict⟩, listed, number, rfl⟩ :=
      DeclaredMethod.exists_of_mem_numberEach member
    obtain ⟨before, same⟩ := MethodInfo.exists_of_mem_verdictEach listed
    cases verdict with
    | kept signature =>
      have distinct := MethodInfo.nodup_of_verdict same.symm
      by_cases plain : signature.typeParameters.isEmpty <;>
        simpa [MethodGenerics.ofVerdict, MethodGenerics.signature?, plain] using distinct
    | _ => simp [MethodGenerics.ofVerdict, MethodGenerics.signature?]

end JvmGenerics
