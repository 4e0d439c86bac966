import JvmGenerics.Signature.Parser
import Mathlib.Data.List.Induction

/-!
# Well-formed signatures

A signature is well formed if its names are not empty and hold no delimiter, if all
dimensions of an array belong to one array type, and if only class types and type variables
are thrown. How deep its types nest and how many dimensions their arrays have is measured
apart from that.
-/

namespace JvmGenerics.Signature

/-- A name that a signature can hold. -/
def IsIdentifier (name : String) : Prop :=
  name.toList ≠ [] ∧ ∀ c ∈ name.toList, isDelimiter c = false

theorem isIdentifier_iff {name : String} : IsIdentifier name ↔
    (name.toList ≠ [] ∧ name.toList.all fun c => !isDelimiter c) := by
  simp [IsIdentifier]

instance (name : String) : Decidable (IsIdentifier name) :=
  decidable_of_iff _ isIdentifier_iff.symm

def ReferenceType.isArray : ReferenceType → Bool
  | .array _ _ => true
  | _ => false

def TypeSignature.isArray : TypeSignature → Bool
  | .base _ => false
  | .reference type => type.isArray

/-- The reference type that a type is, unless it is primitive. -/
def TypeSignature.reference? : TypeSignature → Option ReferenceType
  | .base _ => none
  | .reference type => some type

/-- The type that an argument gives, unless it is the unbounded wildcard. -/
def TypeArgument.type? : TypeArgument → Option ReferenceType
  | .any => none
  | .bounded _ type => some type

mutual

def ClassType.WellFormed : ClassType → Prop
  | .topLevel package name arguments =>
    (∀ segment ∈ package, IsIdentifier segment) ∧ IsIdentifier name ∧
      TypeArgument.WellFormedEach arguments
  | .member outer name arguments =>
    outer.WellFormed ∧ IsIdentifier name ∧ TypeArgument.WellFormedEach arguments
termination_by structural type => type

/-- An array has a dimension at least, and its component is not an array itself. -/
def ReferenceType.WellFormed : ReferenceType → Prop
  | .classType type => type.WellFormed
  | .typeVariable name => IsIdentifier name
  | .array dimensions component =>
    1 ≤ dimensions ∧ component.isArray = false ∧ component.WellFormed
termination_by structural type => type

def TypeSignature.WellFormed : TypeSignature → Prop
  | .base _ => True
  | .reference type => type.WellFormed
termination_by structural type => type

def TypeArgument.WellFormedEach : List TypeArgument → Prop
  | [] => True
  | .any :: rest => TypeArgument.WellFormedEach rest
  | .bounded _ type :: rest => type.WellFormed ∧ TypeArgument.WellFormedEach rest
termination_by structural arguments => arguments

end

theorem TypeSignature.wellFormed_iff {type : TypeSignature} :
    type.WellFormed ↔ ∀ inner ∈ type.reference?, inner.WellFormed := by
  cases type <;> simp [TypeSignature.WellFormed, reference?]

def TypeParameter.WellFormed (parameter : TypeParameter) : Prop :=
  IsIdentifier parameter.name ∧ ∀ bound ∈ parameter.bounds, bound.WellFormed

structure ClassSignature.WellFormed (signature : ClassSignature) : Prop where
  typeParameters : ∀ parameter ∈ signature.typeParameters, parameter.WellFormed
  superclass : signature.superclass.WellFormed
  interfaces : ∀ type ∈ signature.interfaces, type.WellFormed

structure MethodSignature.WellFormed (signature : MethodSignature) : Prop where
  typeParameters : ∀ parameter ∈ signature.typeParameters, parameter.WellFormed
  parameters : ∀ type ∈ signature.parameters, type.WellFormed
  returnType : ∀ type ∈ signature.returnType, type.WellFormed
  throws : ∀ type ∈ signature.throws, type.WellFormed ∧ type.isArray = false

/-- The reference types that stand in a class signature: the bounds of its type parameters,
its superclass and its interfaces. -/
def ClassSignature.references (signature : ClassSignature) : List ReferenceType :=
  signature.typeParameters.flatMap TypeParameter.bounds ++
    .classType signature.superclass :: signature.interfaces.map .classType

/-- The reference types that stand in a method signature: the bounds of its type parameters,
and what it takes, returns and throws. -/
def MethodSignature.references (signature : MethodSignature) : List ReferenceType :=
  signature.typeParameters.flatMap TypeParameter.bounds ++
    (signature.parameters ++ signature.returnType.toList).filterMap TypeSignature.reference? ++
      signature.throws

theorem ClassSignature.forall_references {signature : ClassSignature}
    {good : ReferenceType → Prop} : (∀ type ∈ signature.references, good type) ↔
      (∀ parameter ∈ signature.typeParameters, ∀ bound ∈ parameter.bounds, good bound) ∧
        good (.classType signature.superclass) ∧
          ∀ type ∈ signature.interfaces, good (.classType type) := by
  rw [references, List.forall_mem_append, List.forall_mem_flatMap, List.forall_mem_cons,
    List.forall_mem_map]

theorem MethodSignature.forall_references {signature : MethodSignature}
    {good : ReferenceType → Prop} : (∀ type ∈ signature.references, good type) ↔
      (∀ parameter ∈ signature.typeParameters, ∀ bound ∈ parameter.bounds, good bound) ∧
        (∀ type ∈ signature.parameters, ∀ inner ∈ type.reference?, good inner) ∧
          (∀ type ∈ signature.returnType, ∀ inner ∈ type.reference?, good inner) ∧
            ∀ type ∈ signature.throws, good type := by
  simp only [references, List.forall_mem_append, List.forall_mem_flatMap,
    List.forall_mem_filterMap, Option.mem_toList, Option.mem_def, and_assoc]

mutual

/-- How deep the type arguments of a class type nest, those of all its classes included. -/
def ClassType.nesting : ClassType → Nat
  | .topLevel _ _ arguments => TypeArgument.nestingEach arguments
  | .member outer _ arguments => max outer.nesting (TypeArgument.nestingEach arguments)
termination_by structural type => type

/-- How deep a reference type nests. A type variable and an array of a primitive type are
one level; a class type is one level above its deepest type argument, and an array of a
reference type one level above its component. -/
def ReferenceType.nesting : ReferenceType → Nat
  | .classType type => type.nesting + 1
  | .typeVariable _ => 1
  | .array _ component => component.nesting + 1
termination_by structural type => type

def TypeSignature.nesting : TypeSignature → Nat
  | .base _ => 0
  | .reference type => type.nesting
termination_by structural type => type

/-- The nesting of the deepest of some type arguments; an unbounded wildcard has none. -/
def TypeArgument.nestingEach : List TypeArgument → Nat
  | [] => 0
  | .any :: rest => TypeArgument.nestingEach rest
  | .bounded _ type :: rest => max type.nesting (TypeArgument.nestingEach rest)
termination_by structural arguments => arguments

end

mutual

/-- The most dimensions of an array among the type arguments of a class type. -/
def ClassType.mostDimensions : ClassType → Nat
  | .topLevel _ _ arguments => TypeArgument.mostDimensionsEach arguments
  | .member outer _ arguments =>
    max outer.mostDimensions (TypeArgument.mostDimensionsEach arguments)
termination_by structural type => type

/-- The most dimensions of an array in a type. -/
def ReferenceType.mostDimensions : ReferenceType → Nat
  | .classType type => type.mostDimensions
  | .typeVariable _ => 0
  | .array dimensions component => max dimensions component.mostDimensions
termination_by structural type => type

def TypeSignature.mostDimensions : TypeSignature → Nat
  | .base _ => 0
  | .reference type => type.mostDimensions
termination_by structural type => type

def TypeArgument.mostDimensionsEach : List TypeArgument → Nat
  | [] => 0
  | .any :: rest => TypeArgument.mostDimensionsEach rest
  | .bounded _ type :: rest => max type.mostDimensions (TypeArgument.mostDimensionsEach rest)
termination_by structural arguments => arguments

end

/-- A type that can be read with a given number of levels left: neither does it nest deeper,
nor does an array in it have too many dimensions. -/
def ReferenceType.Fits (levels : Nat) (type : ReferenceType) : Prop :=
  type.nesting ≤ levels ∧ type.mostDimensions ≤ maxDimensions

def TypeSignature.Fits (levels : Nat) (type : TypeSignature) : Prop :=
  type.nesting ≤ levels ∧ type.mostDimensions ≤ maxDimensions

/-- A class type whose type arguments can be read with a given number of levels left. -/
def ClassType.Fits (levels : Nat) (type : ClassType) : Prop :=
  type.nesting ≤ levels ∧ type.mostDimensions ≤ maxDimensions

/-- Type arguments that can be read with a given number of levels left. -/
def TypeArgument.FitsEach (levels : Nat) (arguments : List TypeArgument) : Prop :=
  TypeArgument.nestingEach arguments ≤ levels ∧
    TypeArgument.mostDimensionsEach arguments ≤ maxDimensions

/-- Where a class bound may stand, the name of this parameter would be taken for one. -/
def TypeParameter.looksLikeBound (parameter : TypeParameter) : Bool :=
  parameter.name.toList.head? == some 'L' || parameter.name.toList.head? == some 'T'

/-- The text of one parameter can be told from the text of the next. -/
def TypeParameter.Separates (parameter next : TypeParameter) : Prop :=
  parameter.bounds = [] → next.looksLikeBound = false

instance (parameter next : TypeParameter) : Decidable (parameter.Separates next) :=
  inferInstanceAs (Decidable (_ → _))

def TypeParameter.Fits (parameter : TypeParameter) : Prop :=
  ∀ bound ∈ parameter.bounds, bound.Fits maxNesting

/-- The types in a class signature keep within the limits. The superclass and the interfaces
are no level by themselves, so their type arguments have all levels left. -/
structure ClassSignature.Fits (signature : ClassSignature) : Prop where
  typeParameters : ∀ parameter ∈ signature.typeParameters, parameter.Fits
  superclass : signature.superclass.Fits maxNesting
  interfaces : ∀ type ∈ signature.interfaces, type.Fits maxNesting

/-- The types in a method signature keep within the limits. A thrown class is no level by
itself, so there is one level more for thrown types. -/
structure MethodSignature.Fits (signature : MethodSignature) : Prop where
  typeParameters : ∀ parameter ∈ signature.typeParameters, parameter.Fits
  parameters : ∀ type ∈ signature.parameters, type.Fits maxNesting
  returnType : ∀ type ∈ signature.returnType, type.Fits maxNesting
  throws : ∀ type ∈ signature.throws, type.Fits (maxNesting + 1)

namespace ReferenceType

variable {levels : Nat}

theorem not_fits_zero (type : ReferenceType) : ¬type.Fits 0 := by
  rintro ⟨nesting, -⟩
  cases type <;> simp [ReferenceType.nesting] at nesting

theorem fits_classType_iff {type : ClassType} :
    (classType type).Fits (levels + 1) ↔ type.Fits levels := by
  simp [Fits, ClassType.Fits, ReferenceType.nesting, ReferenceType.mostDimensions]

theorem fits_typeVariable (name : String) : (typeVariable name).Fits (levels + 1) := by
  simp [Fits, ReferenceType.nesting, ReferenceType.mostDimensions]

theorem fits_array_iff {dimensions : Nat} {component : TypeSignature} :
    (array dimensions component).Fits (levels + 1) ↔
      dimensions ≤ maxDimensions ∧ component.Fits levels := by
  simp only [Fits, TypeSignature.Fits, ReferenceType.nesting, ReferenceType.mostDimensions,
    Nat.max_le, Nat.add_le_add_iff_right]
  exact and_left_comm

theorem Fits.mono {more : Nat} {type : ReferenceType} (fits : type.Fits levels)
    (le : levels ≤ more) : type.Fits more :=
  ⟨Nat.le_trans fits.1 le, fits.2⟩

end ReferenceType

namespace TypeSignature

theorem fits_base (levels : Nat) (type : BaseType) : (base type).Fits levels := by
  simp [Fits, TypeSignature.nesting, TypeSignature.mostDimensions]

theorem fits_reference_iff {levels : Nat} {type : ReferenceType} :
    (reference type).Fits levels ↔ type.Fits levels := by
  simp [Fits, ReferenceType.Fits, TypeSignature.nesting, TypeSignature.mostDimensions]

theorem fits_iff {levels : Nat} {type : TypeSignature} :
    type.Fits levels ↔ ∀ inner ∈ type.reference?, inner.Fits levels := by
  cases type with
  | base type => exact iff_of_true (fits_base levels type) (by simp [reference?])
  | reference type => simp [fits_reference_iff, reference?]

end TypeSignature

/-- A class type that keeps within the limits leaves a level unused where it is no level. -/
theorem ClassType.fits_of_fits {levels : Nat} {type : ClassType}
    (fits : (ReferenceType.classType type).Fits levels) : type.Fits levels :=
  ⟨Nat.le_of_succ_le fits.1, fits.2⟩

theorem ClassSignature.fits_of_references {signature : ClassSignature}
    (each : ∀ type ∈ signature.references, type.Fits maxNesting) : signature.Fits := by
  obtain ⟨bounds, superclass, interfaces⟩ := forall_references.mp each
  exact ⟨bounds, ClassType.fits_of_fits superclass,
    fun type member => ClassType.fits_of_fits (interfaces type member)⟩

theorem MethodSignature.fits_of_references {signature : MethodSignature}
    (each : ∀ type ∈ signature.references, type.Fits maxNesting) : signature.Fits := by
  obtain ⟨bounds, parameters, returned, throws⟩ := forall_references.mp each
  exact ⟨bounds, fun type member => TypeSignature.fits_iff.mpr (parameters type member),
    fun type member => TypeSignature.fits_iff.mpr (returned type member),
    fun type member => (throws type member).mono (Nat.le_succ _)⟩

theorem ClassSignature.Fits.mostDimensions_le {signature : ClassSignature}
    (fits : signature.Fits) : ∀ type ∈ signature.references, type.mostDimensions ≤ maxDimensions :=
  forall_references.mpr
    ⟨fun parameter member bound isBound => (fits.typeParameters parameter member bound isBound).2,
      fits.superclass.2, fun type member => (fits.interfaces type member).2⟩

theorem MethodSignature.Fits.mostDimensions_le {signature : MethodSignature}
    (fits : signature.Fits) : ∀ type ∈ signature.references, type.mostDimensions ≤ maxDimensions :=
  forall_references.mpr
    ⟨fun parameter member bound isBound => (fits.typeParameters parameter member bound isBound).2,
      fun type member inner given =>
        (TypeSignature.fits_iff.mp (fits.parameters type member) inner given).2,
      fun type member inner given =>
        (TypeSignature.fits_iff.mp (fits.returnType type member) inner given).2,
      fun type member => (fits.throws type member).2⟩

/-- Induction over a reference type: over the component of an array, and over all type
arguments of all classes of a class type. -/
@[elab_as_elim]
theorem ReferenceType.inductionOn {motive : ReferenceType → Prop} (type : ReferenceType)
    (typeVariable : ∀ name, motive (.typeVariable name))
    (array : ∀ dimensions component, (∀ type ∈ component.reference?, motive type) →
      motive (.array dimensions component))
    (classType : ∀ type : ClassType, (∀ segment ∈ type.segments, ∀ argument ∈ segment.2,
      ∀ inner ∈ argument.type?, motive inner) → motive (.classType type)) : motive type := by
  refine @ReferenceType.rec
    (fun type => ∀ segment ∈ type.segments, ∀ argument ∈ segment.2,
      ∀ inner ∈ argument.type?, motive inner)
    motive (fun type => ∀ inner ∈ type.reference?, motive inner)
    (fun argument => ∀ inner ∈ argument.type?, motive inner)
    (fun arguments => ∀ argument ∈ arguments, ∀ inner ∈ argument.type?, motive inner)
    ?topLevel ?member classType typeVariable array ?base ?reference ?any ?bounded ?nil ?cons type
  case topLevel =>
    intro package name arguments each
    simpa [ClassType.segments] using each
  case member =>
    intro outer name arguments inOuter each
    rw [ClassType.segments, List.forall_mem_append, List.forall_mem_singleton]
    exact ⟨inOuter, each⟩
  case base => simp [TypeSignature.reference?]
  case reference => simp [TypeSignature.reference?]
  case any => simp [TypeArgument.type?]
  case bounded => simp [TypeArgument.type?]
  case nil => simp
  case cons =>
    intro argument rest first others
    exact List.forall_mem_cons.mpr ⟨first, others⟩

namespace TypeArgument

/-- The text of one type argument. -/
def render : TypeArgument → List Char
  | .any => ['*']
  | .bounded variance type => variance.render ++ type.render

theorem renderEach_eq_flatMap (arguments : List TypeArgument) :
    renderEach arguments = arguments.flatMap render := by
  induction arguments with
  | nil => rfl
  | cons argument rest ih =>
    cases argument <;> simp [renderEach, render, ih]

theorem wellFormedEach_iff {arguments : List TypeArgument} :
    WellFormedEach arguments ↔
      ∀ argument ∈ arguments, ∀ type ∈ argument.type?, type.WellFormed := by
  induction arguments with
  | nil => simp [WellFormedEach]
  | cons argument rest ih =>
    cases argument <;> simp [WellFormedEach, type?, ih]

theorem fitsEach_iff {levels : Nat} {arguments : List TypeArgument} :
    FitsEach levels arguments ↔
      ∀ argument ∈ arguments, ∀ type ∈ argument.type?, type.Fits levels := by
  induction arguments with
  | nil => simp [FitsEach, nestingEach, mostDimensionsEach]
  | cons argument rest ih =>
    rw [List.forall_mem_cons, ← ih]
    cases argument with
    | any => simp [FitsEach, nestingEach, mostDimensionsEach, type?]
    | bounded variance type =>
      simp only [FitsEach, nestingEach, mostDimensionsEach, type?, ReferenceType.Fits,
        Nat.max_le, Option.mem_some_iff, forall_eq']
      exact and_and_and_comm

end TypeArgument

namespace ClassType

/-- The names of the package of the outermost class. -/
def packageNames : ClassType → List String
  | topLevel package _ _ => package
  | member outer _ _ => outer.packageNames

/-- A class type with given classes, from the outermost inwards. -/
def ofParts (package : List String) (name : String) (arguments : List TypeArgument)
    (members : List (String × List TypeArgument)) : ClassType :=
  members.foldl (fun outer entry => .member outer entry.1 entry.2)
    (.topLevel package name arguments)

/-- The text of one class with its own type arguments. -/
def segmentText (segment : String × List TypeArgument) : List Char :=
  segment.1.toList ++ bracketed segment.2 (TypeArgument.renderEach segment.2)

theorem ofParts_concat (package : List String) (name : String) (arguments : List TypeArgument)
    (members : List (String × List TypeArgument)) (last : String × List TypeArgument) :
    ofParts package name arguments (members ++ [last]) =
      .member (ofParts package name arguments members) last.1 last.2 := by
  rw [ofParts, List.foldl_append]
  rfl

theorem exists_parts : ∀ type : ClassType,
    ∃ package name arguments members, type = ofParts package name arguments members
  | .topLevel package name arguments => ⟨package, name, arguments, [], rfl⟩
  | .member outer name arguments => by
    obtain ⟨package, first, own, members, rfl⟩ := exists_parts outer
    exact ⟨package, first, own, members ++ [(name, arguments)],
      (ofParts_concat package first own members (name, arguments)).symm⟩

section Parts

variable (package : List String) (name : String) (arguments : List TypeArgument)
variable (members : List (String × List TypeArgument))

theorem packageNames_ofParts : (ofParts package name arguments members).packageNames = package := by
  induction members using List.reverseRecOn with
  | nil => rfl
  | append_singleton members last ih => rw [ofParts_concat, packageNames, ih]

theorem segments_ofParts :
    (ofParts package name arguments members).segments = (name, arguments) :: members := by
  induction members using List.reverseRecOn with
  | nil => rfl
  | append_singleton members last ih => rw [ofParts_concat, segments, ih, List.cons_append]

theorem renderOpen_ofParts : (ofParts package name arguments members).renderOpen =
    'L' :: (package.flatMap (fun segment => segment.toList ++ ['/']) ++
      segmentText (name, arguments) ++ members.flatMap fun entry => '.' :: segmentText entry) := by
  induction members using List.reverseRecOn with
  | nil => simp [ofParts, renderOpen, segmentText]
  | append_singleton members last ih =>
    rw [ofParts_concat, renderOpen, ih]
    simp [segmentText]

end Parts

theorem segments_ne_nil : ∀ type : ClassType, type.segments ≠ []
  | .topLevel _ _ _ => by simp [segments]
  | .member _ _ _ => by simp [segments]

theorem wellFormed_iff : ∀ {type : ClassType}, type.WellFormed ↔
    (∀ name ∈ type.packageNames, IsIdentifier name) ∧
      ∀ segment ∈ type.segments, IsIdentifier segment.1 ∧ TypeArgument.WellFormedEach segment.2
  | .topLevel package name arguments => by
    simp [ClassType.WellFormed, packageNames, segments]
  | .member outer name arguments => by
    simp only [ClassType.WellFormed, packageNames, segments, @wellFormed_iff outer,
      List.forall_mem_append, List.forall_mem_singleton]
    exact and_assoc

theorem WellFormed.inner {type : ClassType} (wellFormed : type.WellFormed) :
    ∀ segment ∈ type.segments, ∀ argument ∈ segment.2, ∀ inner ∈ argument.type?,
      inner.WellFormed := by
  intro segment isSegment
  exact TypeArgument.wellFormedEach_iff.mp ((wellFormed_iff.mp wellFormed).2 segment isSegment).2

theorem fits_iff {levels : Nat} : ∀ {type : ClassType}, type.Fits levels ↔
    ∀ segment ∈ type.segments, TypeArgument.FitsEach levels segment.2
  | .topLevel package name arguments => by
    simp [Fits, TypeArgument.FitsEach, ClassType.nesting, ClassType.mostDimensions, segments]
  | .member outer name arguments => by
    have around := @fits_iff levels outer
    simp only [Fits, TypeArgument.FitsEach, ClassType.nesting, ClassType.mostDimensions, segments,
      Nat.max_le, List.forall_mem_append, List.forall_mem_singleton] at around ⊢
    rw [← around]
    exact and_and_and_comm

end ClassType

/-- The character that the text of a reference type starts with. -/
def ReferenceType.lead : ReferenceType → Char
  | .classType _ => 'L'
  | .typeVariable _ => 'T'
  | .array _ _ => '['

/-- The character that the text of a type starts with. -/
def TypeSignature.lead : TypeSignature → Char
  | .base type => type.letter
  | .reference type => type.lead

theorem ClassType.exists_renderOpen_eq (type : ClassType) :
    ∃ tail, type.renderOpen = 'L' :: tail := by
  obtain ⟨package, name, arguments, members, rfl⟩ := type.exists_parts
  exact ⟨_, renderOpen_ofParts package name arguments members⟩

theorem ReferenceType.exists_render_eq {type : ReferenceType} (wellFormed : type.WellFormed) :
    ∃ tail, type.render = type.lead :: tail := by
  cases type with
  | classType type =>
    obtain ⟨tail, starts⟩ := type.exists_renderOpen_eq
    exact ⟨tail ++ [';'], by rw [ReferenceType.render, starts, lead, List.cons_append]⟩
  | typeVariable name => exact ⟨name.toList ++ [';'], by simp [ReferenceType.render, lead]⟩
  | array dimensions component =>
    obtain ⟨fewer, rfl⟩ := Nat.exists_eq_add_of_le' wellFormed.1
    exact ⟨List.replicate fewer '[' ++ component.render, rfl⟩

theorem TypeArgument.render_ne_nil {argument : TypeArgument}
    (wellFormed : ∀ type ∈ argument.type?, type.WellFormed) : argument.render ≠ [] := by
  cases argument with
  | any => simp [render]
  | bounded variance type =>
    obtain ⟨tail, starts⟩ := ReferenceType.exists_render_eq (wellFormed type rfl)
    simp [render, starts]

theorem TypeSignature.exists_render_eq {type : TypeSignature} (wellFormed : type.WellFormed) :
    ∃ tail, type.render = type.lead :: tail := by
  cases type with
  | base type => exact ⟨[], rfl⟩
  | reference type => exact ReferenceType.exists_render_eq wellFormed

theorem TypeSignature.render_ne_nil {type : TypeSignature} (wellFormed : type.WellFormed) :
    type.render ≠ [] := by
  obtain ⟨tail, starts⟩ := TypeSignature.exists_render_eq wellFormed
  simp [starts]

/-- Nothing that closes a list of types or stands for a missing one starts a type. -/
theorem TypeSignature.lead_ne (type : TypeSignature) : type.lead ≠ ')' ∧ type.lead ≠ 'V' := by
  cases type with
  | base type => cases type <;> decide
  | reference type => cases type <;> simp [lead, ReferenceType.lead]

theorem TypeSignature.isArray_eq_true_iff {type : TypeSignature} :
    type.isArray = true ↔ type.lead = '[' := by
  cases type with
  | base type => cases type <;> simp [isArray, lead, BaseType.letter]
  | reference type =>
    cases type <;> simp [isArray, lead, ReferenceType.isArray, ReferenceType.lead]

end JvmGenerics.Signature
