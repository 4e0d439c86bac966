import JvmGenerics.Proofs.Descriptor
import JvmGenerics.Proofs.Related
import JvmGenerics.Proofs.Types.Reread

/-!
# Signatures that are descriptors

Where no type variable, no type argument and no member class occurs, a signature says no more
than an erased type, and both are written alike. A method signature with such types that
declares and throws nothing is therefore a method descriptor as well. The two have different
parsers and different ways through resolution; here they come to the same.
-/

namespace JvmGenerics

namespace Signature

/-- A single class without type arguments. -/
def ClassType.IsErased : ClassType → Prop
  | .topLevel _ _ arguments => arguments = []
  | .member _ _ _ => False

mutual

/-- A type without type variables, type arguments and member classes. -/
def ReferenceType.IsErased : ReferenceType → Prop
  | .classType type => type.IsErased
  | .typeVariable _ => False
  | .array _ component => component.IsErased
termination_by structural type => type

def TypeSignature.IsErased : TypeSignature → Prop
  | .base _ => True
  | .reference type => type.IsErased
termination_by structural type => type

end

/-- A method that declares no type parameters, throws nothing and has erased types only. -/
structure MethodSignature.IsErased (signature : MethodSignature) : Prop where
  typeParameters : signature.typeParameters = []
  parameters : ∀ type ∈ signature.parameters, type.IsErased
  returnType : ∀ type ∈ signature.returnType, type.IsErased
  throws : signature.throws = []

/-- The erased type that a type says the same as. The dimensions of an array add up with those
of its component. -/
inductive TypeSignature.ErasesTo : TypeSignature → FieldType → Prop
  | base (type : BaseType) : ErasesTo (.base type) ⟨0, .base type⟩
  | classType (package : List String) (name : String) :
      ErasesTo (.reference (.classType (.topLevel package name [])))
        ⟨0, .object ("/".intercalate (package ++ [name]))⟩
  | array (dimensions : Nat) {component : TypeSignature} {inner : Nat} {element : ElementType} :
      ErasesTo component ⟨inner, element⟩ →
        ErasesTo (.reference (.array dimensions component)) ⟨dimensions + inner, element⟩

/-- The descriptor that a method signature says the same as. -/
structure MethodSignature.ErasesTo (signature : MethodSignature) (descriptor : MethodDescriptor) :
    Prop where
  typeParameters : signature.typeParameters = []
  parameters : List.Forall₂ TypeSignature.ErasesTo signature.parameters descriptor.parameters
  returnType : Option.Rel TypeSignature.ErasesTo signature.returnType descriptor.returnType
  throws : signature.throws = []

theorem ClassType.IsErased.erasesTo {type : ClassType} (isErased : type.IsErased) :
    ∃ erased, (TypeSignature.reference (.classType type)).ErasesTo erased := by
  cases type with
  | topLevel package name arguments =>
    obtain rfl : arguments = [] := isErased
    exact ⟨_, .classType package name⟩
  | member outer name arguments => exact isErased.elim

mutual

theorem ReferenceType.IsErased.erasesTo : ∀ type : ReferenceType, type.IsErased →
    ∃ erased, (TypeSignature.reference type).ErasesTo erased
  | .classType _, isErased => ClassType.IsErased.erasesTo isErased
  | .typeVariable _, isErased => False.elim isErased
  | .array dimensions component, isErased =>
    have ⟨_, erases⟩ := TypeSignature.IsErased.erasesTo component isErased
    ⟨_, .array dimensions erases⟩
termination_by structural type => type

theorem TypeSignature.IsErased.erasesTo : ∀ type : TypeSignature, type.IsErased →
    ∃ erased, type.ErasesTo erased
  | .base type, _ => ⟨_, .base type⟩
  | .reference type, isErased => ReferenceType.IsErased.erasesTo type isErased
termination_by structural type => type

end

theorem exists_forall₂ {α β : Type} {related : α → β → Prop} {list : List α}
    (each : ∀ entry ∈ list, ∃ other, related entry other) :
    ∃ others, List.Forall₂ related list others := by
  induction list with
  | nil => exact ⟨[], .nil⟩
  | cons entry rest ih =>
    rw [List.forall_mem_cons] at each
    obtain ⟨other, first⟩ := each.1
    obtain ⟨others, further⟩ := ih each.2
    exact ⟨other :: others, .cons first further⟩

theorem MethodSignature.IsErased.erasesTo {signature : MethodSignature}
    (isErased : signature.IsErased) : ∃ descriptor, signature.ErasesTo descriptor := by
  obtain ⟨parameters, related⟩ := exists_forall₂ fun type member =>
    TypeSignature.IsErased.erasesTo type (isErased.parameters type member)
  cases returned : signature.returnType with
  | none =>
    refine ⟨⟨parameters, none⟩, isErased.typeParameters, related, ?_, isErased.throws⟩
    rw [returned]
    exact .none
  | some type =>
    obtain ⟨erased, erases⟩ :=
      TypeSignature.IsErased.erasesTo type (isErased.returnType type returned)
    refine ⟨⟨parameters, some erased⟩, isErased.typeParameters, related, ?_, isErased.throws⟩
    rw [returned]
    exact .some erases

namespace TypeSignature.ErasesTo

variable {type : TypeSignature} {erased : FieldType}

theorem render_eq (erases : type.ErasesTo erased) : type.render = erased.render := by
  induction erases with
  | base type => rfl
  | classType package name =>
    rw [FieldType.render, ElementType.render, toList_intercalate_concat]
    simp [TypeSignature.render, ReferenceType.render, ClassType.renderOpen, bracketed]
  | array dimensions _ ih =>
    rw [TypeSignature.render, ReferenceType.render, ih]
    simp [FieldType.render, ← List.replicate_append_replicate]

/-- The name of a class is not empty, and no semicolon stands in it. -/
theorem element_wellFormed (erases : type.ErasesTo erased) (wellFormed : type.WellFormed) :
    erased.element.WellFormed := by
  induction erases with
  | base type => trivial
  | classType package name =>
    have isClass : (ClassType.topLevel package name []).WellFormed := wellFormed
    have noSemicolon := ClassType.notMem_internalName isClass (rfl : isDelimiter ';' = true) (by decide)
    refine ⟨?_, noSemicolon⟩
    rw [toList_intercalate_concat]
    exact List.append_ne_nil_of_right_ne_nil _ wellFormed.2.1.1
  | array dimensions _ ih => exact ih wellFormed.2.2

theorem dimensions_eq_zero (erases : type.ErasesTo erased) (notArray : type.isArray = false) :
    erased.dimensions = 0 := by
  cases erases with
  | base type => rfl
  | classType package name => rfl
  | array dimensions _ => cases notArray

/-- The component of an array is no array, so its dimensions are those of the whole type. -/
theorem dimensions_le (erases : type.ErasesTo erased) (wellFormed : type.WellFormed) :
    erased.dimensions ≤ type.mostDimensions := by
  cases erases with
  | base type => exact Nat.zero_le _
  | classType package name => exact Nat.zero_le _
  | array dimensions inside =>
    have none := inside.dimensions_eq_zero wellFormed.2.1
    dsimp only at none ⊢
    rw [none]
    exact Nat.le_max_left _ _

end TypeSignature.ErasesTo

namespace MethodSignature.ErasesTo

variable {signature : MethodSignature} {descriptor : MethodDescriptor}

/-- The types of the descriptor are the erased forms of the types of the signature. -/
theorem types (erases : signature.ErasesTo descriptor) : List.Forall₂ TypeSignature.ErasesTo
    (signature.parameters ++ signature.returnType.toList) descriptor.types :=
  List.rel_append erases.parameters (forall₂_toList erases.returnType)

theorem render_eq (erases : signature.ErasesTo descriptor) :
    signature.render = descriptor.render := by
  have parameters : signature.parameters.flatMap TypeSignature.render =
      descriptor.parameters.flatMap FieldType.render :=
    flatMap_eq_of_forall₂ erases.parameters fun _ _ same => same.render_eq
  have returned : signature.returnType.elim ['V'] TypeSignature.render =
      MethodDescriptor.renderReturn descriptor.returnType := by
    have related := erases.returnType
    generalize signature.returnType = first, descriptor.returnType = second at related ⊢
    cases related with
    | none => rfl
    | some same => exact same.render_eq
  rw [MethodSignature.render, MethodDescriptor.render, erases.typeParameters, erases.throws,
    parameters, returned]
  simp [TypeParameter.renderList, bracketed]

/-- An accepted signature with erased types only is accepted as a descriptor too. -/
theorem parse_eq {text : String} (erases : signature.ErasesTo descriptor)
    (read : parseMethod text = .ok signature) : MethodDescriptor.parse text = .ok descriptor := by
  obtain ⟨rfl, wellFormed, fits⟩ := run_accepts methodSignature_accepts methodSignature_rest read
  have types : ∀ type ∈ signature.parameters ++ signature.returnType.toList,
      type.WellFormed ∧ type.mostDimensions ≤ maxDimensions := by
    rw [List.forall_mem_append]
    simp only [Option.mem_toList]
    exact ⟨fun type member => ⟨wellFormed.parameters type member, (fits.parameters type member).2⟩,
      fun type member => ⟨wellFormed.returnType type member, (fits.returnType type member).2⟩⟩
  have elements : ∀ erased ∈ descriptor.types, erased.element.WellFormed := by
    intro erased member
    obtain ⟨type, inSignature, same⟩ := exists_of_mem_right erases.types member
    exact same.element_wellFormed (types type inSignature).1
  have dimensions : ∀ erased ∈ descriptor.types, erased.dimensions ≤ maxDimensions := by
    intro erased member
    obtain ⟨type, inSignature, same⟩ := exists_of_mem_right erases.types member
    have ⟨inside, limited⟩ := types type inSignature
    exact Nat.le_trans (same.dimensions_le inside) limited
  have descriptorRead := (MethodDescriptor.parser_reads elements).1 dimensions
  rw [MethodDescriptor.parse, String.toList_ofList, erases.render_eq, TextParser.parse,
    descriptorRead]
  rfl

end MethodSignature.ErasesTo

end Signature

end JvmGenerics
