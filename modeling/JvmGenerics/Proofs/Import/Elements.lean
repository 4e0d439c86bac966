import JvmGenerics.Proofs.Import.Verdict
import JvmGenerics.Proofs.Types.Alike

/-!
# What resolution makes of an element

The types of a class or a method follow from what is left of its signature, or from
its erased types where nothing is left of it. The questions that they ask follow from
the same data, and so does every class that an element needs.
-/

namespace JvmGenerics

/-- The type parameters of a signature that may be missing. -/
def Signature.ClassSignature.parametersOf (kept : Option ClassSignature) : List TypeParameter :=
  kept.elim [] ClassSignature.typeParameters

/-- The type parameters of a signature that may be missing. -/
def Signature.MethodSignature.parametersOf (kept : Option MethodSignature) :
    List TypeParameter :=
  kept.elim [] MethodSignature.typeParameters

/-- The questions of the supertypes of a class, and of its type parameters before. -/
def ClassInfo.typeQuestions (info : ClassInfo) :
    Option Signature.ClassSignature → List Question
  | some signature =>
    signature.typeParameters.flatMap Signature.TypeParameter.questions ++ signature.questions
  | none => (info.superclass.toList ++ info.interfaces).map .origin

/-- The questions of the types of a method, and of its type parameters before. -/
def MethodInfo.typeQuestions (info : MethodInfo) :
    Option Signature.MethodSignature → List Question
  | some signature =>
    signature.typeParameters.flatMap Signature.TypeParameter.questions ++ signature.questions
  | none =>
    match MethodDescriptor.parse info.key.descriptor with
    | .ok descriptor => descriptor.questions
    | .error _ => []

/-- The diagnostics of the resolution of a method. -/
def MethodInfo.resolutionDiagnostics (className : String) (info : MethodInfo) :
    Option Signature.MethodSignature → List Diagnostic
  | some _ => []
  | none =>
    match MethodDescriptor.parse info.key.descriptor with
    | .ok _ => []
    | .error error => [.malformedDescriptor (.ofMethod className info.key) error]

namespace ClassInfo

/-- The questions of all types of a class and of its methods. -/
def questions (info : ClassInfo) : List Question :=
  info.typeQuestions info.verdict.kept? ++
    info.methodVerdicts.flatMap fun method => method.1.typeQuestions method.2.kept?

/-- The diagnostics of the resolution of a class. -/
def resolutionDiagnostics (info : ClassInfo) : List Diagnostic :=
  info.methodVerdicts.flatMap fun method =>
    method.1.resolutionDiagnostics info.name method.2.kept?

/-- The class whose scopes are visible in a class, if there may be one. -/
def outer? (info : ClassInfo) : Option String :=
  info.enclosing.bind fun place => if place.isStatic then none else some place.className

/-- The classes that a class needs: the one around it, and those that its types name. -/
def needs (info : ClassInfo) : List String :=
  info.outer?.toList ++ info.questions.filterMap Question.className?

end ClassInfo

namespace Surroundings

variable (place : Surroundings Id)

def parametersOf (parameters : List Signature.TypeParameter) : List TypeParameter :=
  parameters.map fun parameter => ⟨parameter.name, (place.bounds parameter).run⟩

/-- The supertypes of a class with what is left of its signature. -/
def supertypesOf (info : ClassInfo) : Option Signature.ClassSignature → Supertypes
  | some signature => (place.supertypes signature).run
  | none => (place.erasedSupertypes info.superclass info.interfaces).run

/-- The types of a method with what is left of its signature. A method of which not
even the descriptor can be read has none. -/
def methodTypesOf (info : MethodInfo) : Option Signature.MethodSignature → MethodTypes
  | some signature => (place.methodTypes signature).run
  | none =>
    match MethodDescriptor.parse info.key.descriptor with
    | .ok descriptor => (place.erasedMethodTypes descriptor).run
    | .error _ => ⟨[], none, []⟩

@[simp]
theorem names_parametersOf (parameters : List Signature.TypeParameter) :
    (place.parametersOf parameters).map TypeParameter.name =
      parameters.map Signature.TypeParameter.name := by
  simp [parametersOf, Function.comp_def]

end Surroundings

section Relations

variable (origins : String → Origin → Origin → Prop)
variable (scopes : String → Option ScopeId → Option ScopeId → Prop)

/-- Alike type parameters. -/
structure TypeParameter.Alike (first second : TypeParameter) : Prop where
  name : first.name = second.name
  bounds : List.Forall₂ (JavaType.Alike origins scopes) first.bounds second.bounds

/-- Alike supertypes. -/
structure Supertypes.Alike (first second : Supertypes) : Prop where
  superclass : Option.Rel (JavaType.Alike origins scopes) first.superclass second.superclass
  interfaces : List.Forall₂ (JavaType.Alike origins scopes) first.interfaces second.interfaces

/-- Alike types of a method. -/
structure MethodTypes.Alike (first second : MethodTypes) : Prop where
  parameters : List.Forall₂ (JavaType.Alike origins scopes) first.parameters second.parameters
  returnType : Option.Rel (JavaType.Alike origins scopes) first.returnType second.returnType
  throws : List.Forall₂ (JavaType.Alike origins scopes) first.throws second.throws

end Relations

namespace Surroundings

open Signature

variable {origins : String → Origin → Origin → Prop}
variable {scopes : String → Option ScopeId → Option ScopeId → Prop}
variable {first second : Surroundings Id}

theorem forall₂_of_questions {α β γ : Type} {related : β → γ → Prop} {value : α → β}
    {other : α → γ} {questions : α → List Question} {agrees : Question → Prop} {list : List α}
    (allAgree : ∀ question ∈ list.flatMap questions, agrees question)
    (alike : ∀ entry, (∀ question ∈ questions entry, agrees question) →
      related (value entry) (other entry)) :
    List.Forall₂ related (list.map value) (list.map other) := by
  rw [List.forall₂_map_left_iff, List.forall₂_map_right_iff, List.forall₂_same]
  exact fun entry member => alike entry fun question asked =>
    allAgree question (List.mem_flatMap.mpr ⟨entry, member, asked⟩)

theorem rel_of_questions {α β γ : Type} {related : β → γ → Prop} {value : α → β}
    {other : α → γ} {questions : α → List Question} {agrees : Question → Prop}
    {option : Option α}
    (allAgree : ∀ question ∈ option.toList.flatMap questions, agrees question)
    (alike : ∀ entry, (∀ question ∈ questions entry, agrees question) →
      related (value entry) (other entry)) :
    Option.Rel related (option.map value) (option.map other) := by
  cases option with
  | none => exact .none
  | some entry => exact .some (alike entry (by simpa using allAgree))

section Parts

variable (primitive : ∀ name, origins name .primitive .primitive)
include primitive

theorem bounds_alike (parameter : Signature.TypeParameter)
    (agrees : ∀ question ∈ parameter.questions, AgreesOn origins scopes first second question) :
    List.Forall₂ (JavaType.Alike origins scopes) (first.bounds parameter).run
      (second.bounds parameter).run := by
  rw [bounds_run, bounds_run]
  unfold Signature.TypeParameter.questions at agrees
  cases declared : parameter.bounds with
  | nil =>
    rw [declared] at agrees
    exact .cons (classRef_alike (agrees _ List.mem_cons_self)) .nil
  | cons bound rest =>
    rw [declared] at agrees
    exact forall₂_of_questions agrees (referenceType_alike primitive)

theorem parametersOf_alike (parameters : List Signature.TypeParameter)
    (agrees : ∀ question ∈ parameters.flatMap Signature.TypeParameter.questions,
      AgreesOn origins scopes first second question) :
    List.Forall₂ (TypeParameter.Alike origins scopes) (first.parametersOf parameters)
      (second.parametersOf parameters) :=
  forall₂_of_questions agrees fun parameter asked => ⟨rfl, bounds_alike primitive parameter asked⟩

theorem supertypesOf_alike (info : ClassInfo) (kept : Option ClassSignature)
    (agrees : ∀ question ∈ info.typeQuestions kept, AgreesOn origins scopes first second question) :
    (first.supertypesOf info kept).Alike origins scopes (second.supertypesOf info kept) := by
  cases kept with
  | some signature =>
    simp only [ClassInfo.typeQuestions, ClassSignature.questions, List.forall_mem_append] at agrees
    simp only [supertypesOf, supertypes_run]
    exact ⟨.some (classType_alike primitive _ agrees.2.1),
      forall₂_of_questions agrees.2.2 (classType_alike primitive)⟩
  | none =>
    simp only [ClassInfo.typeQuestions, List.map_eq_flatMap, List.flatMap_append,
      List.forall_mem_append] at agrees
    simp only [supertypesOf, erasedSupertypes_run]
    have single (name : String) (asked : ∀ question ∈ [Question.origin name],
        AgreesOn origins scopes first second question) :
        JavaType.Alike origins scopes (.classRef (first.classRef name).run)
          (.classRef (second.classRef name).run) :=
      classRef_alike (asked _ List.mem_cons_self)
    exact ⟨rel_of_questions agrees.1 single, forall₂_of_questions agrees.2 single⟩

theorem fieldType_alike (type : FieldType)
    (agrees : ∀ question ∈ type.questions, AgreesOn origins scopes first second question) :
    (first.fieldType type).run.Alike origins scopes (second.fieldType type).run := by
  unfold FieldType.questions at agrees
  unfold fieldType
  cases element : type.element with
  | base base =>
    have same : JavaType.Alike origins scopes (.classRef (ClassRef.ofBase base))
        (.classRef (ClassRef.ofBase base)) := ⟨rfl, rfl, primitive _⟩
    exact same.arrayOf _
  | object internalName =>
    rw [element] at agrees
    have same : JavaType.Alike origins scopes
        (.classRef (first.classRef (binaryOfInternal internalName)).run)
        (.classRef (second.classRef (binaryOfInternal internalName)).run) :=
      classRef_alike (agrees _ List.mem_cons_self)
    exact same.arrayOf _

theorem methodTypesOf_alike (info : MethodInfo) (kept : Option MethodSignature)
    (agrees : ∀ question ∈ info.typeQuestions kept, AgreesOn origins scopes first second question) :
    (first.methodTypesOf info kept).Alike origins scopes (second.methodTypesOf info kept) := by
  cases kept with
  | some signature =>
    simp only [MethodInfo.typeQuestions, MethodSignature.questions, List.forall_mem_append]
      at agrees
    obtain ⟨-, parameters, returned, thrown⟩ := agrees
    simp only [methodTypesOf, methodTypes_run]
    exact ⟨forall₂_of_questions parameters (typeSignature_alike primitive),
      rel_of_questions returned (typeSignature_alike primitive),
      forall₂_of_questions thrown (referenceType_alike primitive)⟩
  | none =>
    unfold MethodInfo.typeQuestions at agrees
    unfold methodTypesOf
    cases parsed : MethodDescriptor.parse info.key.descriptor with
    | error error => exact ⟨.nil, .none, .nil⟩
    | ok descriptor =>
      simp only [parsed, MethodDescriptor.questions, List.forall_mem_append] at agrees
      simp only [erasedMethodTypes_run]
      exact ⟨forall₂_of_questions agrees.1 (fieldType_alike primitive),
        rel_of_questions agrees.2 (fieldType_alike primitive), .nil⟩

end Parts

end Surroundings

def TypeParameter.occurrences (parameter : TypeParameter) : List TypeVariable :=
  parameter.bounds.flatMap JavaType.occurrences

def Supertypes.occurrences (types : Supertypes) : List TypeVariable :=
  types.superclass.toList.flatMap JavaType.occurrences ++
    types.interfaces.flatMap JavaType.occurrences

def MethodTypes.occurrences (types : MethodTypes) : List TypeVariable :=
  types.parameters.flatMap JavaType.occurrences ++
    (types.returnType.toList.flatMap JavaType.occurrences ++
      types.throws.flatMap JavaType.occurrences)

section Relations

variable {origins : String → Origin → Origin → Prop}
variable {scopes : String → Option ScopeId → Option ScopeId → Prop}

theorem occurrences_of_forall₂ {firsts seconds : List JavaType}
    (alike : List.Forall₂ (JavaType.Alike origins scopes) firsts seconds) :
    ∀ reference ∈ firsts.flatMap JavaType.occurrences,
      ∃ scope, scopes reference.name reference.scope scope := by
  rw [← JavaType.occurrencesEach_eq_flatMap]
  exact JavaType.AlikeEach.occurrences_related firsts seconds (JavaType.alikeEach_iff.mpr alike)

theorem occurrences_of_rel {first second : Option JavaType}
    (alike : Option.Rel (JavaType.Alike origins scopes) first second) :
    ∀ reference ∈ first.toList.flatMap JavaType.occurrences,
      ∃ scope, scopes reference.name reference.scope scope := by
  cases alike with
  | none => simp
  | some alike => simpa using JavaType.Alike.occurrences_related _ _ alike

theorem Supertypes.Alike.occurrences_related {first second : Supertypes}
    (alike : first.Alike origins scopes second) :
    ∀ reference ∈ first.occurrences, ∃ scope, scopes reference.name reference.scope scope :=
  List.forall_mem_append.mpr
    ⟨occurrences_of_rel alike.superclass, occurrences_of_forall₂ alike.interfaces⟩

theorem MethodTypes.Alike.occurrences_related {first second : MethodTypes}
    (alike : first.Alike origins scopes second) :
    ∀ reference ∈ first.occurrences, ∃ scope, scopes reference.name reference.scope scope :=
  List.forall_mem_append.mpr ⟨occurrences_of_forall₂ alike.parameters,
    List.forall_mem_append.mpr
      ⟨occurrences_of_rel alike.returnType, occurrences_of_forall₂ alike.throws⟩⟩

end Relations

namespace Surroundings

variable (place : Surroundings Id)

/-- Every place agrees with itself on which scope declares a variable. -/
theorem agreesOn_self (question : Question) :
    AgreesOn (fun _ _ _ => True)
      (fun name scope _ => scope = (place.declaringScope name).run) place place question := by
  cases question with
  | origin name => trivial
  | scope name => rfl

theorem occurrences_parametersOf (parameters : List Signature.TypeParameter) :
    ∀ parameter ∈ place.parametersOf parameters, ∀ reference ∈ parameter.occurrences,
      reference.scope = (place.declaringScope reference.name).run := by
  intro parameter member reference occurs
  obtain ⟨declared, -, rfl⟩ := List.mem_map.mp member
  have alike := bounds_alike (fun _ => trivial) declared
    fun question _ => place.agreesOn_self question
  exact (occurrences_of_forall₂ alike reference occurs).choose_spec

theorem occurrences_supertypesOf (info : ClassInfo) (kept : Option Signature.ClassSignature) :
    ∀ reference ∈ (place.supertypesOf info kept).occurrences,
      reference.scope = (place.declaringScope reference.name).run := by
  have alike := supertypesOf_alike (fun _ => trivial) info kept
    fun question _ => place.agreesOn_self question
  intro reference occurs
  exact (alike.occurrences_related reference occurs).choose_spec

theorem occurrences_methodTypesOf (info : MethodInfo) (kept : Option Signature.MethodSignature) :
    ∀ reference ∈ (place.methodTypesOf info kept).occurrences,
      reference.scope = (place.declaringScope reference.name).run := by
  have alike := methodTypesOf_alike (fun _ => trivial) info kept
    fun question _ => place.agreesOn_self question
  intro reference occurs
  exact (alike.occurrences_related reference occurs).choose_spec

end Surroundings

def TypeParameter.mapOrigins (change : Origin → Origin) (parameter : TypeParameter) :
    TypeParameter :=
  ⟨parameter.name, parameter.bounds.map (JavaType.mapOrigins change)⟩

def Supertypes.mapOrigins (change : Origin → Origin) (types : Supertypes) : Supertypes :=
  ⟨types.superclass.map (JavaType.mapOrigins change),
    types.interfaces.map (JavaType.mapOrigins change)⟩

def MethodTypes.mapOrigins (change : Origin → Origin) (types : MethodTypes) : MethodTypes :=
  ⟨types.parameters.map (JavaType.mapOrigins change),
    types.returnType.map (JavaType.mapOrigins change),
    types.throws.map (JavaType.mapOrigins change)⟩

section Change

variable {change : Origin → Origin}

theorem eq_map_of_forall₂_change {firsts seconds : List JavaType}
    (alike : List.Forall₂ (JavaType.Alike (fun _ origin other => other = change origin)
      fun _ => Eq) firsts seconds) :
    seconds = firsts.map (JavaType.mapOrigins change) := by
  rw [← JavaType.mapOriginsEach_eq_map]
  exact (JavaType.alikeEach_change_iff firsts seconds).mp (JavaType.alikeEach_iff.mpr alike)

theorem eq_map_of_rel_change {first second : Option JavaType}
    (alike : Option.Rel (JavaType.Alike (fun _ origin other => other = change origin)
      fun _ => Eq) first second) :
    second = first.map (JavaType.mapOrigins change) := by
  cases alike with
  | none => rfl
  | some alike => exact congrArg some ((JavaType.alike_change_iff _ _).mp alike)

theorem TypeParameter.eq_mapOrigins {first second : TypeParameter}
    (alike : first.Alike (fun _ origin other => other = change origin) (fun _ => Eq) second) :
    second = first.mapOrigins change := by
  obtain ⟨name, bounds⟩ := alike
  cases second
  exact congrArg₂ TypeParameter.mk name.symm (eq_map_of_forall₂_change bounds)

theorem Supertypes.eq_mapOrigins {first second : Supertypes}
    (alike : first.Alike (fun _ origin other => other = change origin) (fun _ => Eq) second) :
    second = first.mapOrigins change := by
  obtain ⟨superclass, interfaces⟩ := alike
  cases second
  exact congrArg₂ Supertypes.mk (eq_map_of_rel_change superclass)
    (eq_map_of_forall₂_change interfaces)

theorem MethodTypes.eq_mapOrigins {first second : MethodTypes}
    (alike : first.Alike (fun _ origin other => other = change origin) (fun _ => Eq) second) :
    second = first.mapOrigins change := by
  obtain ⟨parameters, returned, thrown⟩ := alike
  cases second
  rw [mapOrigins, ← eq_map_of_forall₂_change parameters, ← eq_map_of_rel_change returned,
    ← eq_map_of_forall₂_change thrown]

end Change

namespace Surroundings

variable {change : Origin → Origin} {first second : Surroundings Id}

/-- Two places that answer a question alike, up to a change of the origins. -/
abbrev ChangesOn (change : Origin → Origin) (first second : Surroundings Id) :
    Question → Prop :=
  AgreesOn (fun _ origin other => other = change origin) (fun _ => Eq) first second

section Parts

variable (primitive : change .primitive = .primitive)
include primitive

theorem parametersOf_change (parameters : List Signature.TypeParameter)
    (agrees : ∀ question ∈ parameters.flatMap Signature.TypeParameter.questions,
      ChangesOn change first second question) :
    second.parametersOf parameters =
      (first.parametersOf parameters).map (TypeParameter.mapOrigins change) := by
  have alike := parametersOf_alike (fun _ => primitive.symm) parameters agrees
  rw [← List.forall₂_eq_eq_eq, List.forall₂_map_right_iff]
  exact alike.flip.imp fun _ _ same => TypeParameter.eq_mapOrigins same

theorem supertypesOf_change (info : ClassInfo) (kept : Option Signature.ClassSignature)
    (agrees : ∀ question ∈ info.typeQuestions kept, ChangesOn change first second question) :
    second.supertypesOf info kept = (first.supertypesOf info kept).mapOrigins change :=
  Supertypes.eq_mapOrigins (supertypesOf_alike (fun _ => primitive.symm) info kept agrees)

theorem methodTypesOf_change (info : MethodInfo) (kept : Option Signature.MethodSignature)
    (agrees : ∀ question ∈ info.typeQuestions kept, ChangesOn change first second question) :
    second.methodTypesOf info kept = (first.methodTypesOf info kept).mapOrigins change :=
  MethodTypes.eq_mapOrigins (methodTypesOf_alike (fun _ => primitive.symm) info kept agrees)

end Parts

end Surroundings

theorem TypeParameter.mapOrigins_id (parameter : TypeParameter) :
    parameter.mapOrigins id = parameter := by
  have same : JavaType.mapOrigins id = id := funext JavaType.mapOrigins_id
  simp [mapOrigins, same]

theorem Supertypes.mapOrigins_id (types : Supertypes) : types.mapOrigins id = types := by
  have same : JavaType.mapOrigins id = id := funext JavaType.mapOrigins_id
  simp [mapOrigins, same]

theorem MethodTypes.mapOrigins_id (types : MethodTypes) : types.mapOrigins id = types := by
  have same : JavaType.mapOrigins id = id := funext JavaType.mapOrigins_id
  simp [mapOrigins, same]

namespace Surroundings

variable {first second : Surroundings Id}

theorem parametersOf_eq (parameters : List Signature.TypeParameter)
    (agrees : ∀ question ∈ parameters.flatMap Signature.TypeParameter.questions,
      ChangesOn id first second question) :
    second.parametersOf parameters = first.parametersOf parameters := by
  rw [parametersOf_change rfl parameters agrees]
  exact List.map_id'' TypeParameter.mapOrigins_id _

theorem supertypesOf_eq (info : ClassInfo) (kept : Option Signature.ClassSignature)
    (agrees : ∀ question ∈ info.typeQuestions kept, ChangesOn id first second question) :
    second.supertypesOf info kept = first.supertypesOf info kept := by
  rw [supertypesOf_change rfl info kept agrees, Supertypes.mapOrigins_id]

theorem methodTypesOf_eq (info : MethodInfo) (kept : Option Signature.MethodSignature)
    (agrees : ∀ question ∈ info.typeQuestions kept, ChangesOn id first second question) :
    second.methodTypesOf info kept = first.methodTypesOf info kept := by
  rw [methodTypesOf_change rfl info kept agrees, MethodTypes.mapOrigins_id]

end Surroundings

end JvmGenerics
