import JvmGenerics.Types.Resolution
import Mathlib.Data.List.Basic

/-!
# The questions of resolution

Which questions resolution asks of a place, and in which order, is known from the
syntax alone: no question depends on the answer to another. So resolution in a
place that changes while it answers comes apart into two halves. Its value is that
of resolution in a place with the same answers and no state, and its effect is
that of the questions, asked one after the other.
-/

namespace JvmGenerics

/-- A question of resolution: where a class comes from, or which scope declares a
type variable. -/
inductive Question
  | origin (className : String)
  | scope (variableName : String)
deriving DecidableEq

/-- The class that a question asks for. -/
def Question.className? : Question → Option String
  | origin className => some className
  | scope _ => none

namespace Signature

mutual

/-- The questions of a class type. Of an enclosing class only the name matters. -/
def ClassType.questions : ClassType → List Question
  | .topLevel package name arguments =>
    .origin (ClassType.topLevel package name arguments).binaryName ::
      TypeArgument.questionsEach arguments
  | .member outer name arguments =>
    .origin (ClassType.member outer name arguments).binaryName ::
      TypeArgument.questionsEach arguments
termination_by structural type => type

/-- The questions of a reference type. -/
def ReferenceType.questions : ReferenceType → List Question
  | .classType type => type.questions
  | .typeVariable name => [.scope name]
  | .array _ component => component.questions
termination_by structural type => type

/-- The questions of a type; a primitive type has none. -/
def TypeSignature.questions : TypeSignature → List Question
  | .base _ => []
  | .reference type => type.questions
termination_by structural type => type

def TypeArgument.questionsEach : List TypeArgument → List Question
  | [] => []
  | .any :: rest => TypeArgument.questionsEach rest
  | .bounded _ type :: rest => type.questions ++ TypeArgument.questionsEach rest
termination_by structural arguments => arguments

end

/-- The questions of the bounds of a type parameter. -/
def TypeParameter.questions (parameter : TypeParameter) : List Question :=
  match parameter.bounds with
  | [] => [.origin objectName]
  | declared => declared.flatMap ReferenceType.questions

/-- The questions of the supertypes of a class. -/
def ClassSignature.questions (signature : ClassSignature) : List Question :=
  signature.superclass.questions ++ signature.interfaces.flatMap ClassType.questions

/-- The questions of the types of a method. -/
def MethodSignature.questions (signature : MethodSignature) : List Question :=
  signature.parameters.flatMap TypeSignature.questions ++
    (signature.returnType.toList.flatMap TypeSignature.questions ++
      signature.throws.flatMap ReferenceType.questions)

end Signature

/-- The question of an erased type, unless its element is primitive. -/
def FieldType.questions (type : FieldType) : List Question :=
  match type.element with
  | .base _ => []
  | .object internalName => [.origin (binaryOfInternal internalName)]

/-- The questions of the erased types of a method. -/
def MethodDescriptor.questions (descriptor : MethodDescriptor) : List Question :=
  descriptor.parameters.flatMap FieldType.questions
    ++ descriptor.returnType.toList.flatMap FieldType.questions

namespace Surroundings

open Signature

section Pure

variable (place : Surroundings Id)

@[simp] theorem classRef_run (name : String) :
    (place.classRef name).run = ⟨name, 0, (place.originOf name).run⟩ :=
  rfl

theorem bounds_run (parameter : Signature.TypeParameter) :
    (place.bounds parameter).run =
      match parameter.bounds with
      | [] => [.classRef ⟨objectName, 0, (place.originOf objectName).run⟩]
      | declared => declared.map fun bound => (place.referenceType bound).run := by
  unfold bounds
  split <;> simp_all

theorem bounds_ne_nil (parameter : Signature.TypeParameter) :
    (place.bounds parameter).run ≠ [] := by
  rw [bounds_run]
  split <;> simp_all

theorem typeParameters_run (parameters : List Signature.TypeParameter) :
    (place.typeParameters parameters).run =
      parameters.map fun parameter => (parameter.name, (place.bounds parameter).run) := by
  simp [typeParameters]

theorem supertypes_run (signature : ClassSignature) :
    (place.supertypes signature).run =
      ⟨some (place.classType signature.superclass).run,
        signature.interfaces.map fun type => (place.classType type).run⟩ := by
  simp [supertypes]

theorem optionMapM_run {α β : Type} (option : Option α) (action : α → Id β) :
    (option.mapM action).run = option.map fun entry => (action entry).run := by
  cases option <;> rfl

theorem erasedSupertypes_run (superclass : Option String) (interfaces : List String) :
    (place.erasedSupertypes superclass interfaces).run =
      ⟨superclass.map fun name => .classRef (place.classRef name).run,
        interfaces.map fun name => .classRef (place.classRef name).run⟩ := by
  simp [erasedSupertypes, optionMapM_run]

theorem methodTypes_run (signature : MethodSignature) :
    (place.methodTypes signature).run =
      ⟨signature.parameters.map fun type => (place.typeSignature type).run,
        signature.returnType.map fun type => (place.typeSignature type).run,
        signature.throws.map fun type => (place.referenceType type).run⟩ := by
  simp [methodTypes, optionMapM_run]

theorem erasedMethodTypes_run (descriptor : MethodDescriptor) :
    (place.erasedMethodTypes descriptor).run =
      ⟨descriptor.parameters.map fun type => (place.fieldType type).run,
        descriptor.returnType.map fun type => (place.fieldType type).run, []⟩ := by
  simp [erasedMethodTypes, optionMapM_run]

end Pure

variable {σ α β : Type} (place : Surroundings (StateM σ))

/-- The state that a question leaves behind. -/
def ask (state : σ) : Question → σ
  | .origin name => ((place.originOf name).run state).2
  | .scope name => ((place.declaringScope name).run state).2

/-- The state that questions leave behind, asked one after the other. -/
def askEach (state : σ) (questions : List Question) : σ :=
  questions.foldl place.ask state

/-- As long as `holds` is true of the state, the place answers like `answers`, and
no question ends that. -/
structure AnswersLike (answers : Surroundings Id) (holds : σ → Prop) : Prop where
  originOf : ∀ {state}, holds state → ∀ name,
    ((place.originOf name).run state).1 = (answers.originOf name).run
  declaringScope : ∀ {state}, holds state → ∀ name,
    ((place.declaringScope name).run state).1 = (answers.declaringScope name).run
  ask : ∀ {state}, holds state → ∀ question, holds (place.ask state question)

/-- From every state of which `holds` is true, an action yields a given value, and
its effect is that of given questions. -/
def Yields (holds : σ → Prop) (action : StateM σ α) (value : α)
    (questions : List Question) : Prop :=
  ∀ state, holds state → action.run state = (value, place.askEach state questions)

theorem askEach_append (state : σ) (first second : List Question) :
    place.askEach state (first ++ second) =
      place.askEach (place.askEach state first) second :=
  List.foldl_append

variable {place} {answers : Surroundings Id} {holds : σ → Prop}

theorem AnswersLike.askEach (same : place.AnswersLike answers holds) {state : σ}
    (valid : holds state) (questions : List Question) :
    holds (place.askEach state questions) := by
  induction questions generalizing state with
  | nil => exact valid
  | cons question rest ih => exact ih (same.ask valid question)

theorem yields_pure (value : α) : place.Yields holds (pure value) value [] :=
  fun _ _ => rfl

theorem Yields.map (transform : α → β) {action : StateM σ α} {value : α}
    {questions : List Question} (yields : place.Yields holds action value questions) :
    place.Yields holds (transform <$> action) (transform value) questions := by
  intro state valid
  have result := yields state valid
  rw [StateT.run_map, result]
  rfl

theorem Yields.bind (same : place.AnswersLike answers holds) {action : StateM σ α}
    {next : α → StateM σ β} {first : α} {second : β} {questions further : List Question}
    (yieldsFirst : place.Yields holds action first questions)
    (yieldsSecond : place.Yields holds (next first) second further) :
    place.Yields holds (action >>= next) second (questions ++ further) := by
  intro state valid
  rw [StateT.run_bind, yieldsFirst state valid, askEach_append]
  exact yieldsSecond _ (same.askEach valid questions)

theorem Yields.mapM (same : place.AnswersLike answers holds) {action : α → StateM σ β}
    {value : α → β} {questions : α → List Question} (list : List α)
    (yields : ∀ entry ∈ list, place.Yields holds (action entry) (value entry) (questions entry)) :
    place.Yields holds (list.mapM action) (list.map value) (list.flatMap questions) := by
  induction list with
  | nil => exact yields_pure []
  | cons entry rest ih =>
    have tail := ih fun other member => yields other (List.mem_cons_of_mem _ member)
    rw [List.mapM_cons]
    simp only [← map_eq_pure_bind]
    exact Yields.bind same (yields entry (by simp)) (tail.map (value entry :: ·))

theorem Yields.optionMapM {action : α → StateM σ β} {value : α → β}
    {questions : α → List Question} (option : Option α)
    (yields : ∀ entry ∈ option, place.Yields holds (action entry) (value entry) (questions entry)) :
    place.Yields holds (option.mapM action) (option.map value)
      (option.toList.flatMap questions) := by
  cases option with
  | none => exact yields_pure none
  | some entry => simpa using (yields entry rfl).map some

theorem originOf_yields (same : place.AnswersLike answers holds) (name : String) :
    place.Yields holds (place.originOf name) (answers.originOf name).run [.origin name] :=
  fun _ valid => Prod.ext (same.originOf valid name) rfl

theorem declaringScope_yields (same : place.AnswersLike answers holds) (name : String) :
    place.Yields holds (place.declaringScope name) (answers.declaringScope name).run
      [.scope name] :=
  fun _ valid => Prod.ext (same.declaringScope valid name) rfl

theorem classRef_yields (same : place.AnswersLike answers holds) (name : String) :
    place.Yields holds (place.classRef name) (answers.classRef name).run [.origin name] :=
  (originOf_yields same name).map (ClassRef.mk name 0)

mutual

theorem classType_yields (same : place.AnswersLike answers holds) :
    ∀ type : ClassType,
    place.Yields holds (place.classType type) (answers.classType type).run type.questions
  | .topLevel _ _ arguments =>
    Yields.bind same (classRef_yields same _)
      ((typeArguments_yields same arguments).map (withArguments _))
  | .member _ _ arguments =>
    Yields.bind same (classRef_yields same _)
      ((typeArguments_yields same arguments).map (withArguments _))
termination_by structural type => type

theorem referenceType_yields (same : place.AnswersLike answers holds) :
    ∀ type : ReferenceType,
    place.Yields holds (place.referenceType type) (answers.referenceType type).run
      type.questions
  | .classType type => classType_yields same type
  | .typeVariable name =>
    ((declaringScope_yields same name).map (TypeVariable.mk name)).map JavaType.typeVariable
  | .array dimensions component =>
    (typeSignature_yields same component).map fun type : JavaType => type.arrayOf dimensions
termination_by structural type => type

theorem typeSignature_yields (same : place.AnswersLike answers holds) :
    ∀ type : TypeSignature,
    place.Yields holds (place.typeSignature type) (answers.typeSignature type).run
      type.questions
  | .base _ => yields_pure _
  | .reference type => referenceType_yields same type
termination_by structural type => type

theorem typeArguments_yields (same : place.AnswersLike answers holds) :
    ∀ arguments : List TypeArgument,
    place.Yields holds (place.typeArguments arguments) (answers.typeArguments arguments).run
      (TypeArgument.questionsEach arguments)
  | [] => yields_pure []
  | .any :: rest =>
    (typeArguments_yields same rest).map fun types => JavaType.wildcard [] [] :: types
  | .bounded variance type :: rest =>
    Yields.bind same (referenceType_yields same type)
      ((typeArguments_yields same rest).map (withVariance variance _ :: ·))
termination_by structural arguments => arguments

end

section Parts

variable (same : place.AnswersLike answers holds)
include same

theorem bounds_yields (parameter : Signature.TypeParameter) :
    place.Yields holds (place.bounds parameter) (answers.bounds parameter).run
      parameter.questions := by
  rw [bounds_run]
  unfold bounds Signature.TypeParameter.questions
  cases parameter.bounds with
  | nil =>
    exact (classRef_yields same objectName).map fun reference => [JavaType.classRef reference]
  | cons first rest =>
    exact Yields.mapM same (first :: rest) fun bound _ => referenceType_yields same bound

theorem typeParameters_yields (parameters : List Signature.TypeParameter) :
    place.Yields holds (place.typeParameters parameters) (answers.typeParameters parameters).run
      (parameters.flatMap Signature.TypeParameter.questions) := by
  rw [typeParameters_run]
  exact Yields.mapM same _ fun parameter _ =>
    (bounds_yields same parameter).map (parameter.name, ·)

theorem supertypes_yields (signature : ClassSignature) :
    place.Yields holds (place.supertypes signature) (answers.supertypes signature).run
      signature.questions := by
  rw [supertypes_run]
  exact Yields.bind same (classType_yields same signature.superclass)
    ((Yields.mapM same _ fun type _ => classType_yields same type).map (Supertypes.mk _))

theorem erasedSupertypes_yields (superclass : Option String) (interfaces : List String) :
    place.Yields holds (place.erasedSupertypes superclass interfaces)
      (answers.erasedSupertypes superclass interfaces).run
      ((superclass.toList ++ interfaces).map .origin) := by
  rw [erasedSupertypes_run]
  have single (name : String) := (classRef_yields same name).map JavaType.classRef
  have questions : (superclass.toList ++ interfaces).map Question.origin =
      superclass.toList.flatMap (fun name => [.origin name]) ++
        interfaces.flatMap fun name => [.origin name] := by
    simp [List.map_eq_flatMap]
  rw [questions]
  exact Yields.bind same
    (Yields.optionMapM superclass fun name _ => single name)
    ((Yields.mapM same interfaces fun name _ => single name).map (Supertypes.mk _))

theorem methodTypes_yields (signature : MethodSignature) :
    place.Yields holds (place.methodTypes signature) (answers.methodTypes signature).run
      signature.questions := by
  rw [methodTypes_run]
  exact Yields.bind same
    (Yields.mapM same signature.parameters fun type _ => typeSignature_yields same type)
    (Yields.bind same
      (Yields.optionMapM signature.returnType fun type _ => typeSignature_yields same type)
      ((Yields.mapM same signature.throws fun type _ => referenceType_yields same type).map
        (MethodTypes.mk _ _)))

theorem fieldType_yields (type : FieldType) :
    place.Yields holds (place.fieldType type) (answers.fieldType type).run type.questions := by
  unfold fieldType FieldType.questions
  cases type.element with
  | base type => exact yields_pure _
  | object internalName =>
    exact (classRef_yields same (binaryOfInternal internalName)).map fun reference =>
      (JavaType.classRef reference).arrayOf type.dimensions

theorem erasedMethodTypes_yields (descriptor : MethodDescriptor) :
    place.Yields holds (place.erasedMethodTypes descriptor)
      (answers.erasedMethodTypes descriptor).run descriptor.questions := by
  rw [erasedMethodTypes_run]
  exact Yields.bind same
    (Yields.mapM same descriptor.parameters fun type _ => fieldType_yields same type)
    ((Yields.optionMapM descriptor.returnType fun type _ => fieldType_yields same type).map
      fun returned => MethodTypes.mk _ returned [])

end Parts

end Surroundings

end JvmGenerics
