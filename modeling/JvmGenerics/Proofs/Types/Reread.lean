import JvmGenerics.Proofs.Signature.RoundTrip
import JvmGenerics.Proofs.Types.Questions
import JvmGenerics.Proofs.Types.Arrays

/-!
# Reading the signatures of resolved types again

A resolved type keeps less than the signature that it was resolved from. Of a member class it
keeps one name, in which those of the classes around it are joined by dollar signs, and of
the type arguments those of the innermost class. What it keeps is the resolved form of a
signature without member classes, whose text is the signature of the resolved type. So that
text is accepted again, and it means the same type.
-/

namespace JvmGenerics

namespace Signature

/-- The name of a class type without its package. -/
def ClassType.flatName : ClassType → String
  | .topLevel _ name _ => name
  | .member outer name _ => outer.flatName ++ "$" ++ name

mutual

/-- The same class as a top-level class, with nothing but its own type arguments. -/
def ClassType.flat : ClassType → ClassType
  | .topLevel package name arguments => .topLevel package name (TypeArgument.flatEach arguments)
  | .member outer name arguments =>
    .topLevel outer.packageNames (outer.flatName ++ "$" ++ name) (TypeArgument.flatEach arguments)
termination_by structural type => type

/-- The same type without member classes. -/
def ReferenceType.flat : ReferenceType → ReferenceType
  | .classType type => .classType type.flat
  | .typeVariable name => .typeVariable name
  | .array dimensions component => .array dimensions component.flat
termination_by structural type => type

def TypeSignature.flat : TypeSignature → TypeSignature
  | .base type => .base type
  | .reference type => .reference type.flat
termination_by structural type => type

def TypeArgument.flatEach : List TypeArgument → List TypeArgument
  | [] => []
  | .any :: rest => .any :: TypeArgument.flatEach rest
  | .bounded variance type :: rest => .bounded variance type.flat :: TypeArgument.flatEach rest
termination_by structural arguments => arguments

end

mutual

/-- No class in the type is a member of another class type. -/
def ClassType.WithoutMembers : ClassType → Prop
  | .topLevel _ _ arguments => TypeArgument.WithoutMembersEach arguments
  | .member _ _ _ => False
termination_by structural type => type

def ReferenceType.WithoutMembers : ReferenceType → Prop
  | .classType type => type.WithoutMembers
  | .typeVariable _ => True
  | .array _ component => component.WithoutMembers
termination_by structural type => type

def TypeSignature.WithoutMembers : TypeSignature → Prop
  | .base _ => True
  | .reference type => type.WithoutMembers
termination_by structural type => type

def TypeArgument.WithoutMembersEach : List TypeArgument → Prop
  | [] => True
  | .any :: rest => TypeArgument.WithoutMembersEach rest
  | .bounded _ type :: rest => type.WithoutMembers ∧ TypeArgument.WithoutMembersEach rest
termination_by structural arguments => arguments

end

mutual

theorem ClassType.flat_eq_self : ∀ type : ClassType, type.WithoutMembers → type.flat = type
  | .topLevel package name arguments, without => by
    rw [ClassType.flat, TypeArgument.flatEach_eq_self arguments without]
  | .member _ _ _, without => False.elim without
termination_by structural type => type

theorem ReferenceType.flat_eq_self :
    ∀ type : ReferenceType, type.WithoutMembers → type.flat = type
  | .classType type, without =>
    congrArg ReferenceType.classType (ClassType.flat_eq_self type without)
  | .typeVariable _, _ => rfl
  | .array dimensions component, without =>
    congrArg (ReferenceType.array dimensions) (TypeSignature.flat_eq_self component without)
termination_by structural type => type

theorem TypeSignature.flat_eq_self :
    ∀ type : TypeSignature, type.WithoutMembers → type.flat = type
  | .base _, _ => rfl
  | .reference type, without =>
    congrArg TypeSignature.reference (ReferenceType.flat_eq_self type without)
termination_by structural type => type

theorem TypeArgument.flatEach_eq_self : ∀ arguments : List TypeArgument,
    TypeArgument.WithoutMembersEach arguments → TypeArgument.flatEach arguments = arguments
  | [], _ => rfl
  | .any :: rest, without => by
    rw [TypeArgument.flatEach, TypeArgument.flatEach_eq_self rest without]
  | .bounded variance type :: rest, without => by
    rw [TypeArgument.flatEach, ReferenceType.flat_eq_self type without.1,
      TypeArgument.flatEach_eq_self rest without.2]
termination_by structural arguments => arguments

end

theorem IsIdentifier.joined {first second : String} (isFirst : IsIdentifier first)
    (isSecond : IsIdentifier second) : IsIdentifier (first ++ "$" ++ second) := by
  have dollar : isDelimiter '$' = false := rfl
  simp only [IsIdentifier, String.toList_append, List.forall_mem_append] at *
  refine ⟨by simp, ⟨isFirst.2, by simpa using dollar⟩, isSecond.2⟩

theorem ClassType.flatName_isIdentifier : ∀ {type : ClassType}, type.WellFormed →
    IsIdentifier type.flatName
  | .topLevel _ _ _, wellFormed => wellFormed.2.1
  | .member _ _ _, wellFormed => (flatName_isIdentifier wellFormed.1).joined wellFormed.2.1

theorem ClassType.packageNames_areIdentifiers {type : ClassType} (wellFormed : type.WellFormed) :
    ∀ name ∈ type.packageNames, IsIdentifier name :=
  (wellFormed_iff.mp wellFormed).1

theorem toList_intercalate_concat (package : List String) (name : String) :
    ("/".intercalate (package ++ [name])).toList =
      package.flatMap (fun segment => segment.toList ++ ['/']) ++ name.toList := by
  rw [String.toList_intercalate]
  induction package with
  | nil => simp
  | cons first rest ih =>
    have more : (rest ++ [name]).map String.toList ≠ [] := by simp
    rw [List.cons_append, List.map_cons, List.intercalate_cons_of_ne_nil more, ih]
    simp

/-- The internal name, as a signature without member classes writes it. -/
theorem ClassType.toList_internalName (type : ClassType) : type.internalName.toList =
    type.packageNames.flatMap (fun segment => segment.toList ++ ['/']) ++
      type.flatName.toList := by
  obtain ⟨package, name, arguments, members, rfl⟩ := type.exists_parts
  induction members using List.reverseRecOn with
  | nil => exact toList_intercalate_concat package name
  | append_singleton members last ih =>
    rw [ofParts_concat]
    simp [internalName, packageNames, flatName, ih]

/-- Slashes apart, no delimiter stands in the internal name of a class. -/
theorem ClassType.notMem_internalName {type : ClassType} (wellFormed : type.WellFormed) {c : Char}
    (delimiter : isDelimiter c = true) (notSlash : c ≠ '/') : c ∉ type.internalName.toList := by
  have notMem {name : String} (isIdentifier : IsIdentifier name) : c ∉ name.toList := by
    intro member
    rw [isIdentifier.2 c member] at delimiter
    cases delimiter
  have inPackage : ∀ name ∈ type.packageNames, c ∉ name.toList :=
    fun name member => notMem (packageNames_areIdentifiers wellFormed name member)
  rw [toList_internalName]
  simpa [notSlash] using ⟨inPackage, notMem (flatName_isIdentifier wellFormed)⟩

theorem ClassType.flat_eq (type : ClassType) : type.flat =
    .topLevel type.packageNames type.flatName (TypeArgument.flatEach type.arguments) := by
  cases type <;> rfl

theorem ClassType.internalName_flat (type : ClassType) :
    type.flat.internalName = type.internalName := by
  apply String.toList_injective
  rw [toList_internalName, toList_internalName, flat_eq]
  simp [packageNames, flatName]

theorem TypeSignature.isArray_flat (type : TypeSignature) : type.flat.isArray = type.isArray := by
  cases type with
  | base type => rfl
  | reference type => cases type <;> rfl

mutual

theorem ClassType.flat_wellFormed : ∀ type : ClassType, type.WellFormed → type.flat.WellFormed
  | .topLevel _ _ arguments, ⟨package, name, inside⟩ =>
    ⟨package, name, TypeArgument.flatEach_wellFormed arguments inside⟩
  | .member _ _ arguments, ⟨outer, name, inside⟩ =>
    ⟨ClassType.packageNames_areIdentifiers outer,
      (ClassType.flatName_isIdentifier outer).joined name,
      TypeArgument.flatEach_wellFormed arguments inside⟩
termination_by structural type => type

theorem ReferenceType.flat_wellFormed :
    ∀ type : ReferenceType, type.WellFormed → type.flat.WellFormed
  | .classType type, wellFormed => ClassType.flat_wellFormed type wellFormed
  | .typeVariable _, wellFormed => wellFormed
  | .array _ component, ⟨positive, notArray, wellFormed⟩ =>
    ⟨positive, component.isArray_flat.trans notArray,
      TypeSignature.flat_wellFormed component wellFormed⟩
termination_by structural type => type

theorem TypeSignature.flat_wellFormed :
    ∀ type : TypeSignature, type.WellFormed → type.flat.WellFormed
  | .base _, _ => trivial
  | .reference type, wellFormed => ReferenceType.flat_wellFormed type wellFormed
termination_by structural type => type

theorem TypeArgument.flatEach_wellFormed : ∀ arguments : List TypeArgument,
    TypeArgument.WellFormedEach arguments →
      TypeArgument.WellFormedEach (TypeArgument.flatEach arguments)
  | [], _ => trivial
  | .any :: rest, wellFormed => TypeArgument.flatEach_wellFormed rest wellFormed
  | .bounded _ type :: rest, ⟨first, others⟩ =>
    ⟨ReferenceType.flat_wellFormed type first, TypeArgument.flatEach_wellFormed rest others⟩
termination_by structural arguments => arguments

end

mutual

theorem ClassType.measures_flat_le : ∀ type : ClassType,
    type.flat.nesting ≤ type.nesting ∧ type.flat.mostDimensions ≤ type.mostDimensions
  | .topLevel _ _ arguments => TypeArgument.measures_flatEach_le arguments
  | .member _ _ arguments => by
    have inside := TypeArgument.measures_flatEach_le arguments
    simp only [ClassType.flat, ClassType.nesting, ClassType.mostDimensions]
    omega
termination_by structural type => type

theorem ReferenceType.measures_flat_le : ∀ type : ReferenceType,
    type.flat.nesting ≤ type.nesting ∧ type.flat.mostDimensions ≤ type.mostDimensions
  | .classType type => by
    have inside := ClassType.measures_flat_le type
    simp only [ReferenceType.flat, ReferenceType.nesting, ReferenceType.mostDimensions]
    omega
  | .typeVariable _ => ⟨Nat.le_refl _, Nat.le_refl _⟩
  | .array _ component => by
    have inside := TypeSignature.measures_flat_le component
    simp only [ReferenceType.flat, ReferenceType.nesting, ReferenceType.mostDimensions]
    omega
termination_by structural type => type

theorem TypeSignature.measures_flat_le : ∀ type : TypeSignature,
    type.flat.nesting ≤ type.nesting ∧ type.flat.mostDimensions ≤ type.mostDimensions
  | .base _ => ⟨Nat.le_refl _, Nat.le_refl _⟩
  | .reference type => ReferenceType.measures_flat_le type
termination_by structural type => type

theorem TypeArgument.measures_flatEach_le : ∀ arguments : List TypeArgument,
    TypeArgument.nestingEach (TypeArgument.flatEach arguments) ≤
        TypeArgument.nestingEach arguments ∧
      TypeArgument.mostDimensionsEach (TypeArgument.flatEach arguments) ≤
        TypeArgument.mostDimensionsEach arguments
  | [] => ⟨Nat.le_refl _, Nat.le_refl _⟩
  | .any :: rest => TypeArgument.measures_flatEach_le rest
  | .bounded _ type :: rest => by
    have first := ReferenceType.measures_flat_le type
    have others := TypeArgument.measures_flatEach_le rest
    simp only [TypeArgument.flatEach, TypeArgument.nestingEach, TypeArgument.mostDimensionsEach]
    omega
termination_by structural arguments => arguments

end

theorem ReferenceType.Fits.flat {levels : Nat} {type : ReferenceType} (fits : type.Fits levels) :
    type.flat.Fits levels := by
  have ⟨nesting, dimensions⟩ := type.measures_flat_le
  exact ⟨Nat.le_trans nesting fits.1, Nat.le_trans dimensions fits.2⟩

end Signature

theorem Signature.bracketed_congr {α β : Type} {first : List α} {second : List β}
    (isEmpty : first.isEmpty = second.isEmpty) : bracketed first = bracketed second := by
  funext entries
  cases first <;> cases second <;> simp_all [bracketed]

theorem internalOfBinary_binaryOfInternal {name : String} (noPoint : '.' ∉ name.toList) :
    internalOfBinary (binaryOfInternal name) = name := by
  have unchanged : name.toList.map (fun c => if (if c = '/' then '.' else c) = '.' then '/'
      else if c = '/' then '.' else c) = name.toList.map id := by
    apply List.map_congr_left
    intro c member
    by_cases slash : c = '/'
    · simp [slash]
    · have notPoint : c ≠ '.' := fun point => noPoint (point ▸ member)
      simp [slash, notPoint]
  rw [internalOfBinary, binaryOfInternal, String.toList_ofList, List.map_map, Function.comp_def,
    unchanged, List.map_id, String.ofList_toList]

namespace Surroundings

open Signature

section Meaning

variable {m : Type → Type} [Monad m] (place : Surroundings m)

mutual

theorem classType_flat : ∀ type : ClassType, place.classType type.flat = place.classType type
  | .topLevel package name arguments => by
    have same : (ClassType.topLevel package name (TypeArgument.flatEach arguments)).binaryName =
        (ClassType.topLevel package name arguments).binaryName := rfl
    rw [ClassType.flat, classType, classType, typeArguments_flatEach arguments, same]
  | .member outer name arguments => by
    have same := congrArg binaryOfInternal (ClassType.member outer name arguments).internalName_flat
    rw [ClassType.flat] at same ⊢
    rw [classType, classType, typeArguments_flatEach arguments, ClassType.binaryName, same,
      ClassType.binaryName]
termination_by structural type => type

theorem referenceType_flat :
    ∀ type : ReferenceType, place.referenceType type.flat = place.referenceType type
  | .classType type => classType_flat type
  | .typeVariable _ => rfl
  | .array _ component => by
    rw [ReferenceType.flat, referenceType, referenceType, typeSignature_flat component]
termination_by structural type => type

theorem typeSignature_flat :
    ∀ type : TypeSignature, place.typeSignature type.flat = place.typeSignature type
  | .base _ => rfl
  | .reference type => referenceType_flat type
termination_by structural type => type

theorem typeArguments_flatEach : ∀ arguments : List TypeArgument,
    place.typeArguments (TypeArgument.flatEach arguments) = place.typeArguments arguments
  | [] => rfl
  | .any :: rest => by
    rw [TypeArgument.flatEach, typeArguments, typeArguments, typeArguments_flatEach rest]
  | .bounded _ type :: rest => by
    rw [TypeArgument.flatEach, typeArguments, typeArguments, typeArguments_flatEach rest,
      referenceType_flat type]
termination_by structural arguments => arguments

end

end Meaning

theorem signature_withArguments {raw : ClassRef} (scalar : raw.dimensions = 0)
    (notPrimitive : raw.isPrimitive = false) (arguments : List JavaType) :
    (withArguments raw arguments).signature =
      'L' :: ((internalOfBinary raw.name).toList ++
        bracketed arguments (JavaType.signatureEach arguments).flatten ++ [';']) := by
  cases arguments with
  | nil =>
    simp [withArguments, JavaType.signature, ClassRef.signature, scalar, notPrimitive, bracketed]
  | cons first rest =>
    simp [withArguments, JavaType.signature, JavaType.signatureEach, bracketed]

theorem signature_withVariance (variance : Variance) (bound : JavaType) :
    (withVariance variance bound).signature = variance.render ++ bound.signature := by
  cases variance <;>
    simp [withVariance, JavaType.signature, JavaType.signatureEach, Variance.render]

section Meaning

variable {place : Surroundings Id}

theorem classType_run (type : ClassType) : (place.classType type).run =
    withArguments (place.classRef type.binaryName).run
      (place.typeArguments type.arguments).run := by
  cases type <;> rfl

theorem isEmpty_typeArguments (arguments : List TypeArgument) :
    (place.typeArguments arguments).run.isEmpty = (TypeArgument.flatEach arguments).isEmpty := by
  cases arguments with
  | nil => rfl
  | cons argument rest => cases argument <;> rfl

theorem isPrimitive_classRef (notPrimitive : ∀ name, (place.originOf name).run ≠ .primitive)
    (name : String) : (place.classRef name).run.isPrimitive = false := by
  rw [ClassRef.isPrimitive, beq_eq_false_iff_ne]
  exact notPrimitive name

/-- A class type, where the signatures of its resolved type arguments are known. -/
theorem signature_of_arguments (notPrimitive : ∀ name, (place.originOf name).run ≠ .primitive)
    {type : ClassType} (wellFormed : type.WellFormed)
    (inside : (JavaType.signatureEach (place.typeArguments type.arguments).run).flatten =
      TypeArgument.renderEach (TypeArgument.flatEach type.arguments)) :
    (place.classType type).run.signature = type.flat.render := by
  have noBrackets : (place.typeArguments type.arguments).run.isEmpty =
      (TypeArgument.flatEach type.arguments).isEmpty := isEmpty_typeArguments type.arguments
  have brackets := bracketed_congr noBrackets
  have noPoint := ClassType.notMem_internalName wellFormed (rfl : isDelimiter '.' = true)
    (by decide)
  calc (place.classType type).run.signature
      = 'L' :: (type.internalName.toList ++
          bracketed (TypeArgument.flatEach type.arguments)
            (TypeArgument.renderEach (TypeArgument.flatEach type.arguments)) ++ [';']) := by
        rw [classType_run, signature_withArguments rfl (isPrimitive_classRef notPrimitive _),
          classRef_run, ClassType.binaryName,
          internalOfBinary_binaryOfInternal noPoint, inside, brackets]
    _ = type.flat.render := by
        rw [ClassType.flat_eq, ClassType.toList_internalName, ClassType.render,
          ClassType.renderOpen]
        simp

mutual

theorem signature_classType (notPrimitive : ∀ name, (place.originOf name).run ≠ .primitive) :
    ∀ type : ClassType, type.WellFormed →
    (place.classType type).run.signature = type.flat.render
  | .topLevel _ _ arguments, wellFormed =>
    signature_of_arguments notPrimitive wellFormed
      (signatureEach_typeArguments notPrimitive arguments wellFormed.2.2)
  | .member _ _ arguments, wellFormed =>
    signature_of_arguments notPrimitive wellFormed
      (signatureEach_typeArguments notPrimitive arguments wellFormed.2.2)
termination_by structural type => type

theorem signature_referenceType (notPrimitive : ∀ name, (place.originOf name).run ≠ .primitive) :
    ∀ type : ReferenceType, type.WellFormed →
    (place.referenceType type).run.signature = type.flat.render
  | .classType type, wellFormed => signature_classType notPrimitive type wellFormed
  | .typeVariable _, _ => rfl
  | .array dimensions component, wellFormed => by
    have inside := signature_typeSignature notPrimitive component wellFormed.2.2
    rw [ReferenceType.flat, ReferenceType.render, ← inside]
    exact JavaType.signature_arrayOf _ dimensions
termination_by structural type => type

theorem signature_typeSignature (notPrimitive : ∀ name, (place.originOf name).run ≠ .primitive) :
    ∀ type : TypeSignature, type.WellFormed →
    (place.typeSignature type).run.signature = type.flat.render
  | .base type, _ => by
    simp [typeSignature, JavaType.signature, ClassRef.signature, ClassRef.ofBase,
      ClassRef.isPrimitive, TypeSignature.flat, TypeSignature.render]
  | .reference type, wellFormed => signature_referenceType notPrimitive type wellFormed
termination_by structural type => type

theorem signatureEach_typeArguments
    (notPrimitive : ∀ name, (place.originOf name).run ≠ .primitive) :
    ∀ arguments : List TypeArgument,
    TypeArgument.WellFormedEach arguments →
      (JavaType.signatureEach (place.typeArguments arguments).run).flatten =
        TypeArgument.renderEach (TypeArgument.flatEach arguments)
  | [], _ => rfl
  | .any :: rest, wellFormed => by
    have others := signatureEach_typeArguments notPrimitive rest wellFormed
    rw [TypeArgument.flatEach, TypeArgument.renderEach, ← others]
    rfl
  | .bounded variance type :: rest, wellFormed => by
    have first := signature_referenceType notPrimitive type wellFormed.1
    have others := signatureEach_typeArguments notPrimitive rest wellFormed.2
    rw [TypeArgument.flatEach, TypeArgument.renderEach, ← first, ← others]
    rw [← signature_withVariance]
    rfl
termination_by structural arguments => arguments

end

end Meaning

end Surroundings

/-- The signature of a type that was resolved from an accepted text is accepted again, and in
the same place it means exactly the same type. Where no class in the text is a member of
another class type, the signature is the text itself. -/
theorem resolved_signature_read_again {text : String} {type : Signature.ReferenceType}
    (read : Signature.parseField text = .ok type) (isKnown : String → Bool) (store : TypeStore)
    (chain : ScopeChain) :
    let place := Surroundings.ofPool isKnown store chain
    let resolved := (place.referenceType type).run
    (∃ again, Signature.parseField (String.ofList resolved.signature) = .ok again ∧
      (place.referenceType again).run = resolved) ∧
    (type.WithoutMembers → String.ofList resolved.signature = text) := by
  intro place resolved
  obtain ⟨sameText, wellFormed, fits⟩ := Signature.run_accepts Signature.fieldSignature_accepts
    Signature.fieldSignature_rest read
  have notPrimitive (name : String) : (place.originOf name).run ≠ .primitive := by
    change (if isKnown name then Origin.imported else .unresolved) ≠ .primitive
    split <;> decide
  have signature : resolved.signature = type.flat.render :=
    Surroundings.signature_referenceType notPrimitive type wellFormed
  refine ⟨⟨type.flat, ?_, ?_⟩, fun without => ?_⟩
  · have flatRead := Signature.fieldSignature_reads (type.flat_wellFormed wellFormed)
    rw [signature]
    exact (Signature.run_of_reads flatRead).1 fits.flat
  · rw [Surroundings.referenceType_flat]
  · rw [signature, type.flat_eq_self without, sameText]

/-- An array of a member class with type arguments at both levels: the signature of its resolved
form joins the two names and drops the outer arguments. -/
theorem resolved_signature_read_again_member :
    let place := Surroundings.ofPool (· == "p.Outer$Inner") .empty []
    ∃ type, Signature.parseField "[Lp/Outer<TT;>.Inner<*-[TU;>;" = .ok type ∧
      String.ofList (place.referenceType type).run.signature = "[Lp/Outer$Inner<*-[TU;>;" ∧
      ∃ again, Signature.parseField "[Lp/Outer$Inner<*-[TU;>;" = .ok again ∧
        (place.referenceType again).run = (place.referenceType type).run := by
  intro place
  obtain ⟨type, read⟩ := Signature.exists_eq_ok
    (show (Signature.parseField "[Lp/Outer<TT;>.Inner<*-[TU;>;").isOk = true by decide +kernel)
  have text : (Signature.parseField "[Lp/Outer<TT;>.Inner<*-[TU;>;").map
      (fun type => String.ofList (place.referenceType type).run.signature) =
        .ok "[Lp/Outer$Inner<*-[TU;>;" := by decide +kernel
  rw [read] at text
  have signature := Except.ok.inj text
  obtain ⟨again, -⟩ := resolved_signature_read_again read (· == "p.Outer$Inner") .empty []
  change String.ofList (place.referenceType type).run.signature = _ at signature
  rw [signature] at again
  exact ⟨type, read, signature, again⟩

end JvmGenerics
