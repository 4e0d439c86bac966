import JvmGenerics.Types.Text

/-!
# Arrays

A type that is built, taken apart and put together again keeps the one form of its arrays:
what stands in a generic array is neither a class nor an array, and there is a dimension at
least. In this form dimensions add up, whatever steps they come in, and every text of an array
is the text of its component with a mark for each dimension.
-/

namespace JvmGenerics

namespace JavaType

/-- What may be the element of a generic array: no class and no array. -/
def IsElement : JavaType → Prop
  | classRef _ => False
  | genericArray _ _ => False
  | parameterized _ _ => True
  | typeVariable _ => True
  | wildcard _ _ => True

mutual

/-- The generic arrays in a type, each as its element and its dimensions. -/
def arrays : JavaType → List (JavaType × Nat)
  | classRef _ => []
  | parameterized _ arguments => arraysEach arguments
  | typeVariable _ => []
  | wildcard upper lower => arraysEach upper ++ arraysEach lower
  | genericArray element dimensions => (element, dimensions) :: element.arrays
termination_by structural type => type

/-- The generic arrays in some types. -/
def arraysEach : List JavaType → List (JavaType × Nat)
  | [] => []
  | type :: rest => type.arrays ++ arraysEach rest
termination_by structural types => types

end

/-- Every generic array in the type has an element that is no class and no array, and a
dimension at least. -/
def Proper (type : JavaType) : Prop :=
  ∀ array ∈ type.arrays, array.1.IsElement ∧ 1 ≤ array.2

/-- The types that can be had from the outside. Classes, variables, wildcards and uses of a
class with arguments are built freely, arrays by `arrayOf` alone; and whatever a type shows of
its parts is a type again. -/
inductive Constructed : JavaType → Prop
  | classRef (reference : ClassRef) : Constructed (.classRef reference)
  | parameterized (raw : ClassRef) {arguments : List JavaType}
      (each : ∀ argument ∈ arguments, Constructed argument) :
      Constructed (.parameterized raw arguments)
  | typeVariable (reference : TypeVariable) : Constructed (.typeVariable reference)
  | wildcard {upper lower : List JavaType} (above : ∀ bound ∈ upper, Constructed bound)
      (below : ∀ bound ∈ lower, Constructed bound) : Constructed (.wildcard upper lower)
  | arrayOf {component : JavaType} (built : Constructed component) (dimensions : Nat) :
      Constructed (component.arrayOf dimensions)
  | argument {raw : ClassRef} {arguments : List JavaType} {argument : JavaType}
      (built : Constructed (.parameterized raw arguments)) (member : argument ∈ arguments) :
      Constructed argument
  | upperBound {upper lower : List JavaType} {bound : JavaType}
      (built : Constructed (.wildcard upper lower)) (member : bound ∈ upper) : Constructed bound
  | lowerBound {upper lower : List JavaType} {bound : JavaType}
      (built : Constructed (.wildcard upper lower)) (member : bound ∈ lower) : Constructed bound
  | element {element : JavaType} {dimensions : Nat}
      (built : Constructed (.genericArray element dimensions)) : Constructed element
  | component {element : JavaType} {dimensions : Nat}
      (built : Constructed (.genericArray element dimensions)) :
      Constructed (element.componentOf dimensions)

theorem arraysEach_eq_flatMap (types : List JavaType) :
    arraysEach types = types.flatMap arrays := by
  induction types with
  | nil => rfl
  | cons type rest ih => rw [arraysEach, ih, List.flatMap_cons]

theorem proper_classRef (reference : ClassRef) : (classRef reference).Proper :=
  List.forall_mem_nil _

theorem proper_typeVariable (reference : TypeVariable) : (typeVariable reference).Proper :=
  List.forall_mem_nil _

theorem forall_mem_arraysEach_iff {types : List JavaType} :
    (∀ array ∈ arraysEach types, array.1.IsElement ∧ 1 ≤ array.2) ↔
      ∀ type ∈ types, type.Proper := by
  rw [arraysEach_eq_flatMap]
  exact List.forall_mem_flatMap

theorem proper_parameterized_iff {raw : ClassRef} {arguments : List JavaType} :
    (parameterized raw arguments).Proper ↔ ∀ argument ∈ arguments, argument.Proper := by
  rw [Proper, arrays]
  exact forall_mem_arraysEach_iff

theorem proper_wildcard_iff {upper lower : List JavaType} :
    (wildcard upper lower).Proper ↔
      (∀ bound ∈ upper, bound.Proper) ∧ ∀ bound ∈ lower, bound.Proper := by
  rw [Proper, arrays, List.forall_mem_append, forall_mem_arraysEach_iff,
    forall_mem_arraysEach_iff]

theorem proper_genericArray_iff {element : JavaType} {dimensions : Nat} :
    (genericArray element dimensions).Proper ↔
      (element.IsElement ∧ 1 ≤ dimensions) ∧ element.Proper := by
  rw [Proper, arrays, List.forall_mem_cons]
  rfl

theorem isElement_iff {type : JavaType} :
    type.IsElement ↔ (∀ reference, type ≠ classRef reference) ∧
      ∀ element dimensions, type ≠ genericArray element dimensions := by
  cases type <;> simp [IsElement]

/-- A type is a class, an array, or something that arrays can be made of. -/
theorem isElement_or (type : JavaType) :
    (∃ reference, type = classRef reference) ∨
      (∃ element dimensions, type = genericArray element dimensions) ∨ type.IsElement := by
  cases type with
  | classRef reference => exact Or.inl ⟨reference, rfl⟩
  | genericArray element dimensions => exact Or.inr (Or.inl ⟨element, dimensions, rfl⟩)
  | parameterized raw arguments => exact Or.inr (Or.inr trivial)
  | typeVariable reference => exact Or.inr (Or.inr trivial)
  | wildcard upper lower => exact Or.inr (Or.inr trivial)

@[simp]
theorem arrayOf_zero (type : JavaType) : type.arrayOf 0 = type :=
  if_pos rfl

theorem arrayOf_classRef (reference : ClassRef) (dimensions : Nat) :
    (classRef reference).arrayOf dimensions =
      classRef { reference with dimensions := reference.dimensions + dimensions } := by
  cases dimensions with
  | zero => rfl
  | succ dimensions => exact if_neg (Nat.succ_ne_zero dimensions)

theorem arrayOf_genericArray (element : JavaType) (inner dimensions : Nat) :
    (genericArray element inner).arrayOf dimensions = genericArray element (inner + dimensions) := by
  cases dimensions with
  | zero => rfl
  | succ dimensions => exact if_neg (Nat.succ_ne_zero dimensions)

theorem arrayOf_of_isElement {type : JavaType} (isElement : type.IsElement) {dimensions : Nat}
    (positive : 1 ≤ dimensions) : type.arrayOf dimensions = genericArray type dimensions := by
  have nonzero : dimensions ≠ 0 := by omega
  cases type with
  | classRef reference => exact isElement.elim
  | genericArray element inner => exact isElement.elim
  | parameterized raw arguments => exact if_neg nonzero
  | typeVariable reference => exact if_neg nonzero
  | wildcard upper lower => exact if_neg nonzero

theorem arrayOf_arrayOf (type : JavaType) (inner outer : Nat) :
    (type.arrayOf inner).arrayOf outer = type.arrayOf (inner + outer) := by
  rcases type.isElement_or with ⟨reference, rfl⟩ | ⟨element, dimensions, rfl⟩ | isElement
  · simp only [arrayOf_classRef, Nat.add_assoc]
  · simp only [arrayOf_genericArray, Nat.add_assoc]
  · cases inner with
    | zero => rw [arrayOf_zero, Nat.zero_add]
    | succ inner =>
      rw [arrayOf_of_isElement isElement (Nat.succ_pos inner), arrayOf_genericArray,
        arrayOf_of_isElement isElement (by omega)]

theorem Proper.arrayOf {type : JavaType} (proper : type.Proper) (dimensions : Nat) :
    (type.arrayOf dimensions).Proper := by
  rcases type.isElement_or with ⟨reference, rfl⟩ | ⟨element, inner, rfl⟩ | isElement
  · rw [arrayOf_classRef]
    exact proper_classRef _
  · rw [proper_genericArray_iff] at proper
    rw [arrayOf_genericArray, proper_genericArray_iff]
    exact ⟨⟨proper.1.1, by omega⟩, proper.2⟩
  · cases dimensions with
    | zero => exact proper
    | succ dimensions =>
      rw [arrayOf_of_isElement isElement (Nat.succ_pos dimensions), proper_genericArray_iff]
      exact ⟨⟨isElement, Nat.succ_pos dimensions⟩, proper⟩

section Components

variable {element : JavaType} {dimensions : Nat}

theorem Proper.componentOf (proper : (genericArray element dimensions).Proper) :
    (element.componentOf dimensions).Proper := by
  rw [proper_genericArray_iff] at proper
  rw [JavaType.componentOf]
  split
  · exact proper.2
  · rw [proper_genericArray_iff]
    exact ⟨⟨proper.1.1, by omega⟩, proper.2⟩

/-- One dimension more makes up for the one that the component lacks. -/
theorem arrayOf_componentOf (proper : (genericArray element dimensions).Proper) :
    (element.componentOf dimensions).arrayOf 1 = genericArray element dimensions := by
  obtain ⟨⟨isElement, positive⟩, -⟩ := proper_genericArray_iff.mp proper
  rw [JavaType.componentOf]
  split
  · next one => rw [one, arrayOf_of_isElement isElement (Nat.le_refl 1)]
  · rw [arrayOf_genericArray, Nat.sub_add_cancel positive]

/-- The component lacks the dimension that was added. -/
theorem componentOf_of_arrayOf {type : JavaType} (proper : type.Proper)
    (array : type.arrayOf 1 = genericArray element dimensions) :
    element.componentOf dimensions = type := by
  rcases type.isElement_or with ⟨reference, rfl⟩ | ⟨inside, inner, rfl⟩ | isElement
  · rw [arrayOf_classRef] at array
    cases array
  · obtain ⟨⟨-, positive⟩, -⟩ := proper_genericArray_iff.mp proper
    rw [arrayOf_genericArray] at array
    cases array
    rw [JavaType.componentOf, if_neg (by omega), Nat.add_sub_cancel]
  · rw [arrayOf_of_isElement isElement (Nat.le_refl 1)] at array
    cases array
    exact if_pos rfl

end Components

theorem Constructed.proper {type : JavaType} (built : type.Constructed) : type.Proper := by
  induction built with
  | classRef reference => exact proper_classRef reference
  | parameterized raw each ih => exact proper_parameterized_iff.mpr ih
  | typeVariable reference => exact proper_typeVariable reference
  | wildcard above below upper lower => exact proper_wildcard_iff.mpr ⟨upper, lower⟩
  | arrayOf built dimensions ih => exact ih.arrayOf dimensions
  | argument built member ih => exact proper_parameterized_iff.mp ih _ member
  | upperBound built member ih => exact (proper_wildcard_iff.mp ih).1 _ member
  | lowerBound built member ih => exact (proper_wildcard_iff.mp ih).2 _ member
  | element built ih => exact (proper_genericArray_iff.mp ih).2
  | component built ih => exact ih.componentOf

mutual

/-- Nothing more can be said of the types that can be had. -/
theorem Proper.constructed : ∀ type : JavaType, type.Proper → type.Constructed
  | classRef reference, _ => .classRef reference
  | parameterized raw arguments, proper =>
    .parameterized raw (Proper.constructedEach arguments (proper_parameterized_iff.mp proper))
  | typeVariable reference, _ => .typeVariable reference
  | wildcard upper lower, proper =>
    have bounds := proper_wildcard_iff.mp proper
    .wildcard (Proper.constructedEach upper bounds.1) (Proper.constructedEach lower bounds.2)
  | genericArray element dimensions, proper => by
    obtain ⟨⟨isElement, positive⟩, inside⟩ := proper_genericArray_iff.mp proper
    rw [← arrayOf_of_isElement isElement positive]
    exact .arrayOf (Proper.constructed element inside) dimensions
termination_by structural type => type

theorem Proper.constructedEach : ∀ types : List JavaType,
    (∀ type ∈ types, type.Proper) → ∀ type ∈ types, type.Constructed
  | [], _ => List.forall_mem_nil _
  | first :: rest, proper => by
    rw [List.forall_mem_cons] at proper ⊢
    exact ⟨Proper.constructed first proper.1, Proper.constructedEach rest proper.2⟩
termination_by structural types => types

end

theorem constructed_iff_proper {type : JavaType} : type.Constructed ↔ type.Proper :=
  ⟨Constructed.proper, Proper.constructed type⟩

end JavaType

theorem arrayMarkers_add (first second : Nat) :
    arrayMarkers (first + second) = arrayMarkers first ++ arrayMarkers second := by
  simp [arrayMarkers, ← List.replicate_append_replicate]

namespace JavaType

theorem display_arrayOf (type : JavaType) (dimensions : Nat) :
    (type.arrayOf dimensions).display = type.display ++ arrayMarkers dimensions := by
  rcases type.isElement_or with ⟨reference, rfl⟩ | ⟨element, inner, rfl⟩ | isElement
  · simp only [arrayOf_classRef, display, ClassRef.arrayName, arrayMarkers_add,
      String.append_assoc]
  · simp only [arrayOf_genericArray, display, arrayMarkers_add, String.append_assoc]
  · cases dimensions with
    | zero => exact (String.append_empty).symm
    | succ dimensions =>
      rw [arrayOf_of_isElement isElement (Nat.succ_pos dimensions), display]

theorem signature_arrayOf (type : JavaType) (dimensions : Nat) :
    (type.arrayOf dimensions).signature = List.replicate dimensions '[' ++ type.signature := by
  rcases type.isElement_or with ⟨reference, rfl⟩ | ⟨element, inner, rfl⟩ | isElement
  · simp only [arrayOf_classRef, signature, ClassRef.signature, ClassRef.isPrimitive,
      Nat.add_comm reference.dimensions, ← List.replicate_append_replicate, List.append_assoc]
    rfl
  · simp only [arrayOf_genericArray, signature, Nat.add_comm inner,
      ← List.replicate_append_replicate, List.append_assoc]
  · cases dimensions with
    | zero => rfl
    | succ dimensions =>
      rw [arrayOf_of_isElement isElement (Nat.succ_pos dimensions), signature]

theorem containsStub_arrayOf (type : JavaType) (dimensions : Nat) :
    (type.arrayOf dimensions).containsStub = type.containsStub := by
  rcases type.isElement_or with ⟨reference, rfl⟩ | ⟨element, inner, rfl⟩ | isElement
  · rw [arrayOf_classRef, containsStub, containsStub]
  · rw [arrayOf_genericArray, containsStub, containsStub]
  · cases dimensions with
    | zero => rfl
    | succ dimensions =>
      rw [arrayOf_of_isElement isElement (Nat.succ_pos dimensions), containsStub]

/-- The types that can be had are those in which every generic array has an element that is no
class and no array, and a dimension at least. Adding no dimensions changes nothing, dimensions
that are added one after the other add up, and taking the component of such an array undoes and
is undone by adding one dimension. An array is written as its component is, with a mark for each
dimension, and has the stubs of its component. -/
theorem array_algebra (type : JavaType) :
    (type.Constructed ↔ ∀ element dimensions, (element, dimensions) ∈ type.arrays →
      ((∀ reference, element ≠ classRef reference) ∧
        ∀ inside inner, element ≠ genericArray inside inner) ∧ 1 ≤ dimensions) ∧
    type.arrayOf 0 = type ∧
    (∀ first second, (type.arrayOf first).arrayOf second = type.arrayOf (first + second)) ∧
    (type.Constructed → ∀ element dimensions,
      (type = genericArray element dimensions →
        (element.componentOf dimensions).arrayOf 1 = type) ∧
      (type.arrayOf 1 = genericArray element dimensions →
        element.componentOf dimensions = type)) ∧
    ∀ dimensions,
      (type.arrayOf dimensions).display =
        type.display ++ String.join (List.replicate dimensions "[]") ∧
      (type.arrayOf dimensions).signature = List.replicate dimensions '[' ++ type.signature ∧
      (type.arrayOf dimensions).containsStub = type.containsStub := by
  refine ⟨?_, arrayOf_zero type, arrayOf_arrayOf type, fun built element dimensions => ⟨?_, ?_⟩,
    fun dimensions => ⟨display_arrayOf type dimensions, signature_arrayOf type dimensions,
      containsStub_arrayOf type dimensions⟩⟩
  · simp only [constructed_iff_proper, Proper, Prod.forall, isElement_iff]
  · rintro rfl
    exact arrayOf_componentOf built.proper
  · exact componentOf_of_arrayOf built.proper

/-- Two dimensions of lists with a wildcard over an array inside. -/
theorem array_algebra_lists :
    let element := parameterized ⟨"java.util.List", 0, .imported⟩
      [.wildcard [genericArray (typeVariable ⟨"T", some 0⟩) 1] []]
    (genericArray element 2).Constructed ∧
      (element.componentOf 2).arrayOf 1 = genericArray element 2 ∧
      (genericArray element 2).display = "java.util.List<? extends T[]>[][]" := by
  intro element
  have inside : (genericArray (typeVariable ⟨"T", some 0⟩) 1).Constructed :=
    .arrayOf (.typeVariable ⟨"T", some 0⟩) 1
  have built : (genericArray element 2).Constructed := by
    refine .arrayOf (.parameterized _ ?_) 2
    rw [List.forall_mem_singleton]
    exact .wildcard (List.forall_mem_singleton.mpr inside) (List.forall_mem_nil _)
  exact ⟨built, ((array_algebra _).2.2.2.1 built element 2).1 rfl, by decide⟩

end JavaType

end JvmGenerics
