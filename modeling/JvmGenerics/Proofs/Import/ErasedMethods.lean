import JvmGenerics.Proofs.Import.Published
import JvmGenerics.Proofs.Signature.Erasure
import JvmGenerics.Proofs.Types.Arrays

/-!
# Methods with and without a signature

The types of a method come from its signature, or from its descriptor if it has none. Where
the signature is a descriptor, it does not matter which: both ways ask the same questions in
the same order, and they come to the same types.
-/

namespace JvmGenerics

open Signature

theorem mapM_eq_of_forall₂ {m : Type → Type} [Monad m] [LawfulMonad m] {α β γ : Type}
    {related : α → β → Prop} {firsts : List α} {seconds : List β}
    (same : List.Forall₂ related firsts seconds) {action : α → m γ} {other : β → m γ}
    (agree : ∀ first second, related first second → action first = other second) :
    firsts.mapM action = seconds.mapM other := by
  induction same with
  | nil => rfl
  | cons head _ ih => rw [List.mapM_cons, List.mapM_cons, agree _ _ head, ih]

theorem optionMapM_eq_of_rel {m : Type → Type} [Monad m] {α β γ : Type}
    {related : α → β → Prop} {first : Option α} {second : Option β}
    (same : Option.Rel related first second) {action : α → m γ} {other : β → m γ}
    (agree : ∀ first second, related first second → action first = other second) :
    first.mapM action = second.mapM other := by
  cases same with
  | none => rfl
  | some same => simp only [Option.mapM_some, agree _ _ same]

namespace Surroundings

section Lawful

variable {m : Type → Type} [Monad m] [LawfulMonad m] (place : Surroundings m)

/-- The outer dimensions of an array may be added to those of its resolved component. -/
theorem fieldType_add (outer inner : Nat) (element : ElementType) :
    place.fieldType ⟨outer + inner, element⟩ =
      (fun type => type.arrayOf outer) <$> place.fieldType ⟨inner, element⟩ := by
  induction outer with
  | zero => simp [JavaType.arrayOf_zero]
  | succ outer ih =>
    rw [Nat.succ_add, fieldType_succ, ih]
    simp [JavaType.arrayOf_arrayOf]

theorem fieldType_eq_typeSignature {type : TypeSignature} {erased : FieldType}
    (erases : type.ErasesTo erased) : place.fieldType erased = place.typeSignature type := by
  induction erases with
  | base type => rfl
  | classType package name =>
    simp [fieldType, typeSignature, referenceType, classType, typeArguments, withArguments,
      ClassType.binaryName, ClassType.internalName, JavaType.arrayOf]
  | array dimensions _ ih =>
    rw [fieldType_add, ih, typeSignature, referenceType, map_eq_pure_bind]

/-- A descriptor means what a signature with the same text means, whatever the place does
while it answers. -/
theorem erasedMethodTypes_eq_methodTypes {signature : MethodSignature}
    {descriptor : MethodDescriptor} (erases : signature.ErasesTo descriptor) :
    place.erasedMethodTypes descriptor = place.methodTypes signature := by
  have same (type : TypeSignature) (erased : FieldType) (erases : type.ErasesTo erased) :=
    (place.fieldType_eq_typeSignature erases).symm
  have parameters := mapM_eq_of_forall₂ erases.parameters same
  have returned := optionMapM_eq_of_rel erases.returnType same
  simp [erasedMethodTypes, methodTypes, parameters, returned, erases.throws]

end Lawful

/-- Nothing but the classes that it names matters to a descriptor. -/
theorem erasedMethodTypes_congr {first second : Surroundings Id}
    (origins : first.originOf = second.originOf) :
    first.erasedMethodTypes = second.erasedMethodTypes := by
  have types : first.fieldType = second.fieldType := by
    funext type
    simp only [fieldType, classRef, origins]
  funext descriptor
  rw [erasedMethodTypes, erasedMethodTypes, types]

end Surroundings

theorem Signature.TypeSignature.ErasesTo.questions_eq {type : TypeSignature} {erased : FieldType}
    (erases : type.ErasesTo erased) : erased.questions = type.questions := by
  induction erases with
  | base type => rfl
  | classType package name => rfl
  | array dimensions _ ih => exact ih

theorem Signature.MethodSignature.ErasesTo.questions_eq {signature : MethodSignature}
    {descriptor : MethodDescriptor} (erases : signature.ErasesTo descriptor) :
    descriptor.questions = signature.questions := by
  have agree (type : TypeSignature) (erased : FieldType) (erases : type.ErasesTo erased) :=
    erases.questions_eq.symm
  rw [MethodDescriptor.questions, MethodSignature.questions, erases.throws,
    flatMap_eq_of_forall₂ erases.parameters agree,
    flatMap_eq_of_forall₂ (forall₂_toList erases.returnType) agree, List.flatMap_nil,
    List.append_nil]

/-- Two batches with classes of the same names, and two classpaths that find a class for the
same names. The classes themselves may differ. -/
structure SameNames (classpath another : Classpath) (batch other : List ClassInfo) : Prop where
  batch : ∀ name, (batch.any fun info => info.name == name) =
    other.any fun info => info.name == name
  classpath : ∀ name, ((classpath.load name).any fun info => info.name == name) =
    (another.load name).any fun info => info.name == name

theorem SameNames.refl (classpath : Classpath) (batch : List ClassInfo) :
    SameNames classpath classpath batch batch :=
  ⟨fun _ => rfl, fun _ => rfl⟩

/-- Where a class comes from depends on the names alone. -/
theorem ImportSources.originOf_eq_ite (sources : ImportSources) (batch : List ClassInfo)
    (name : String) : sources.originOf batch name =
      if batch.any fun info => info.name == name then .imported
      else if sources.fallback && (sources.classpath.load name).any fun info => info.name == name
        then .classpath else .unresolved := by
  have inBatch : (batch.any fun info => info.name == name) =
      (batch.find? fun info => info.name == name).isSome := by
    rw [Bool.eq_iff_iff, List.find?_isSome, List.any_eq_true]
  rw [inBatch, originOf, classNamed?]
  cases batch.find? fun info => info.name == name with
  | some info => rfl
  | none =>
    cases sources.fallback with
    | false => rfl
    | true =>
      cases sources.classpath.load name with
      | none => rfl
      | some info => cases same : info.name == name <;> simp [Option.filter, same]

theorem SameNames.originOf_eq {classpath another : Classpath} {batch other : List ClassInfo}
    (same : SameNames classpath another batch other) (options : ImportOptions) :
    (options.sources classpath batch).originOf batch =
      (options.sources another other).originOf other := by
  funext name
  have loaded : ((options.sources classpath batch).classpath.load name).any
      (fun info => info.name == name) = _ := same.classpath name
  rw [ImportSources.originOf_eq_ite, ImportSources.originOf_eq_ite, same.batch name, loaded]
  rfl

namespace ImportedMethod

variable {method : ImportedMethod} {text : String} {signature : MethodSignature}

theorem signature?_of_erased (read : parseMethod text = .ok signature)
    (noParameters : signature.typeParameters = []) (given : method.info.signature = some text) :
    method.signature? = some signature := by
  simp [signature?, given, read, Except.toOption, noParameters]

theorem signature?_of_missing (missing : method.info.signature = none) :
    method.signature? = none := by
  simp [signature?, missing]

end ImportedMethod

/-- The types of a published method are those that what is left of its signature means in the
chain of its class. -/
theorem Imported.Outcome.exists_types_eq {sources : ImportSources} {batch : List ClassInfo}
    {imported : Imported} {state : ImportState} (outcome : imported.Outcome sources batch state)
    {published : ImportedClass} (member : published ∈ imported.classes) {method : ImportedMethod}
    (listed : method ∈ published.methods) :
    ∃ chain, method.types =
      (sources.place batch state.store chain).methodTypesOf method.info method.signature? := by
  obtain ⟨declared, inTable, chain, resolved⟩ := outcome.exists_resolved member
  rw [resolved.value] at listed
  obtain ⟨method, own, rfl⟩ := List.mem_map.mp listed
  refine ⟨method.generics.scope.toList ++ chain, ?_⟩
  rw [outcome.signature?_method_eq inTable own]
  rfl

/-- Take a signature that declares no type parameters, throws nothing, and in whose types no
type variable, no type argument and no member class occurs. Its text is accepted as a
descriptor too. In every place, also in one that loads classes or does anything else while it
answers, the descriptor is resolved to the same types, and it asks the same questions in the
same order. So a method with this signature and a method that has only this descriptor are
published with the same types, be it in one import or in two in which the same names mean
classes. -/
theorem erased_and_generic_agree {text : String} {signature : MethodSignature}
    (read : parseMethod text = .ok signature) (isErased : signature.IsErased) :
    ∃ descriptor, MethodDescriptor.parse text = .ok descriptor ∧
      descriptor.questions = signature.questions ∧
      (∀ {m : Type → Type} [Monad m] [LawfulMonad m] (place : Surroundings m),
        place.erasedMethodTypes descriptor = place.methodTypes signature) ∧
      ∀ (options : ImportOptions) (classpath another : Classpath) (batch other : List ClassInfo),
        SameNames classpath another batch other →
          ∀ generic ∈ (importClasses options classpath batch).classes,
            ∀ method ∈ generic.methods, method.info.signature = some text →
              ∀ plain ∈ (importClasses options another other).classes,
                ∀ erased ∈ plain.methods, erased.info.signature = none →
                  erased.info.key.descriptor = text → erased.types = method.types := by
  obtain ⟨descriptor, erases⟩ := isErased.erasesTo
  have parsed := erases.parse_eq read
  refine ⟨descriptor, parsed, erases.questions_eq,
    fun place => place.erasedMethodTypes_eq_methodTypes erases, ?_⟩
  intro options classpath another batch other same generic published method listed given plain
    otherPublished erased otherListed missing named
  obtain ⟨state, outcome⟩ := importClasses_outcome options classpath batch
  obtain ⟨later, otherOutcome⟩ := importClasses_outcome options another other
  obtain ⟨chain, types⟩ := outcome.exists_types_eq published listed
  obtain ⟨otherChain, otherTypes⟩ := otherOutcome.exists_types_eq otherPublished otherListed
  rw [ImportedMethod.signature?_of_erased read isErased.typeParameters given] at types
  rw [ImportedMethod.signature?_of_missing missing] at otherTypes
  simp only [Surroundings.methodTypesOf, named, parsed] at types otherTypes
  have places :
      ((options.sources classpath batch).place batch state.store chain).erasedMethodTypes =
        ((options.sources another other).place other later.store otherChain).erasedMethodTypes :=
    Surroundings.erasedMethodTypes_congr (same.originOf_eq options)
  rw [types, otherTypes, ← places, Surroundings.erasedMethodTypes_eq_methodTypes _ erases]

/-- `class p.A` with two methods that take an `int` and an array of `p.A`. The first has a
signature that says so, and the second nothing but its descriptor. -/
def ClassInfo.taker : ClassInfo :=
  ⟨"p.A", none, some "java.lang.Object", [], none,
    [⟨⟨"first", "()V"⟩, some "(I[Lp/A;)V"⟩, ⟨⟨"second", "(I[Lp/A;)V"⟩, none⟩]⟩

/-- The signature of the first method of `p.A`. -/
def Signature.MethodSignature.taker : MethodSignature :=
  ⟨[], [.base .int, .reference (.array 1 (.reference (.classType (.topLevel ["p"] "A" []))))],
    none, []⟩

theorem Signature.MethodSignature.taker_isErased : taker.IsErased := by
  refine ⟨rfl, ?_, by simp [taker], rfl⟩
  simp [taker, TypeSignature.IsErased, ReferenceType.IsErased, ClassType.IsErased]

theorem Signature.MethodSignature.taker_read : parseMethod "(I[Lp/A;)V" = .ok taker := by
  let array : ReferenceType := .array 1 (.reference (.classType (.topLevel ["p"] "A" [])))
  have arrayWellFormed : array.WellFormed := ⟨by decide, rfl, by decide, by decide, trivial⟩
  have wellFormed : taker.WellFormed := by
    refine ⟨by simp [taker], ?_, by simp [taker], by simp [taker]⟩
    simpa [taker, TypeSignature.WellFormed] using arrayWellFormed
  have limits : ∀ type ∈ taker.references, type.nesting ≤ 256 ∧ type.mostDimensions ≤ 255 := by
    decide
  have read := (run_of_reads (methodSignature_reads wellFormed)).1
    ⟨fits_of_references limits, .nil⟩
  have text : String.ofList taker.render = "(I[Lp/A;)V" := by decide +kernel
  rw [text] at read
  exact read

/-- The class `p.A` in the result of its import. -/
def ImportedClass.taker : ImportedClass :=
  let types : MethodTypes :=
    ⟨[.classRef (.ofBase .int), .classRef ⟨"p.A", 1, .imported⟩], none, []⟩
  ⟨.taker, .imported, some 0, ⟨some (.classRef ⟨"java.lang.Object", 0, .unresolved⟩), []⟩,
    ClassInfo.taker.methods.map fun info => ⟨info, none, types⟩⟩

theorem importClasses_taker : (importClasses .standard .empty [.taker]).classes = [.taker] := by
  decide +kernel

/-- Both methods of `p.A` are published with the array of the class of the batch. -/
theorem erased_and_generic_agree_taker :
    (parseMethod "(I[Lp/A;)V" = .ok .taker ∧ MethodSignature.taker.IsErased) ∧
      (importClasses .standard .empty [.taker]).classes = [.taker] ∧
        ∃ first second, ImportedClass.taker.methods = [first, second] ∧
          first.info.signature = some "(I[Lp/A;)V" ∧ second.info.signature = none ∧
            second.info.key.descriptor = "(I[Lp/A;)V" ∧ second.types = first.types := by
  obtain ⟨descriptor, -, -, -, agree⟩ :=
    erased_and_generic_agree MethodSignature.taker_read MethodSignature.taker_isErased
  have member : ImportedClass.taker ∈ (importClasses .standard .empty [.taker]).classes := by
    simp [importClasses_taker]
  obtain ⟨first, second, methods, given, missing, named⟩ :
      ∃ first second, ImportedClass.taker.methods = [first, second] ∧
        first.info.signature = some "(I[Lp/A;)V" ∧ second.info.signature = none ∧
          second.info.key.descriptor = "(I[Lp/A;)V" :=
    ⟨_, _, rfl, rfl, rfl, rfl⟩
  have same := agree .standard .empty .empty [.taker] [.taker] (.refl .empty [.taker])
    .taker member first (by simp [methods]) given .taker member second (by simp [methods])
    missing named
  exact ⟨⟨MethodSignature.taker_read, MethodSignature.taker_isErased⟩, importClasses_taker,
    first, second, methods, given, missing, named, same⟩

end JvmGenerics
