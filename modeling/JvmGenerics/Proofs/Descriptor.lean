import JvmGenerics.Descriptor
import JvmGenerics.Proofs.Text.Reading

/-!
# Reading descriptors

The text of a field type or of a method descriptor is read back to what it is the text of, if
the class names in it can stand in a descriptor and no array has too many dimensions.
-/

namespace JvmGenerics

open TextParser

/-- The name of a class ends at the first semicolon, and it is not empty. -/
def ElementType.WellFormed : ElementType → Prop
  | .base _ => True
  | .object internalName => internalName.toList ≠ [] ∧ ';' ∉ internalName.toList

/-- The types that stand in a method descriptor. -/
def MethodDescriptor.types (descriptor : MethodDescriptor) : List FieldType :=
  descriptor.parameters ++ descriptor.returnType.toList

/-- The character that the text of an element starts with. -/
def ElementType.lead : ElementType → Char
  | .base type => type.letter
  | .object _ => 'L'

theorem ElementType.exists_render_eq (element : ElementType) :
    ∃ tail, element.render = element.lead :: tail := by
  cases element with
  | base type => exact ⟨[], rfl⟩
  | object internalName => exact ⟨internalName.toList ++ [';'], rfl⟩

/-- No text of an element goes on with a bracket, or looks like the end of a list or like the
return type of a method that returns nothing. -/
theorem ElementType.lead_ne (element : ElementType) :
    element.lead ≠ '[' ∧ element.lead ≠ ')' ∧ element.lead ≠ 'V' := by
  cases element with
  | base type => cases type <;> decide
  | object internalName => simp [lead]

theorem FieldType.render_ne_nil (type : FieldType) : type.render ≠ [] := by
  obtain ⟨tail, starts⟩ := type.element.exists_render_eq
  simp [render, starts]

theorem FieldType.head?_render_append {type : FieldType} {rest : List Char} :
    ∀ c ∈ (type.render ++ rest).head?, c ≠ ')' ∧ c ≠ 'V' := by
  obtain ⟨tail, starts⟩ := type.element.exists_render_eq
  obtain ⟨dimensions, element⟩ := type
  cases dimensions with
  | zero => simpa [render, starts] using element.lead_ne.2
  | succ fewer => simp [render, List.replicate_succ]

theorem ElementType.parser_reads {element : ElementType} (wellFormed : element.WellFormed)
    (rest : List Char) : parser (element.render ++ rest) = .ok (element, rest) := by
  cases element with
  | base type =>
    rw [parser, peek_bind]
    simp only [render, List.cons_append, List.head?_cons, BaseType.ofLetter?_letter]
    exact bind_of_ok (expect_self _ _ _)
  | object internalName =>
    have noLetter : BaseType.ofLetter? 'L' = none := rfl
    have name : takeWhile1 (· != ';') () (internalName.toList ++ ';' :: rest) =
        .ok (internalName.toList, ';' :: rest) := by
      apply takeWhile1_of_all () wellFormed.1
      · intro c member
        have notEnd : c ≠ ';' := fun same => wellFormed.2 (same ▸ member)
        simpa using notEnd
      · simp
    have text : (object internalName).render ++ rest =
        'L' :: (internalName.toList ++ ';' :: rest) := by simp [render]
    rw [parser, peek_bind, text]
    simp only [List.head?_cons, noLetter]
    rw [bind_of_ok (expect_self _ _ _), bind_of_ok name, bind_of_ok (expect_self _ _ _),
      String.ofList_toList]
    rfl

theorem FieldType.parser_reads {type : FieldType} (wellFormed : type.element.WellFormed)
    (rest : List Char) :
    parser.Reads (type.render ++ rest) (type.dimensions ≤ maxDimensions) type rest := by
  obtain ⟨dimensions, element⟩ := type
  obtain ⟨tail, starts⟩ := element.exists_render_eq
  have ended : ∀ c ∈ (element.render ++ rest).head?, (c == '[') = false := by
    simpa [starts] using element.lead_ne.1
  have brackets : (takeWhile (· == '[') : TextParser Unit (List Char))
      (List.replicate dimensions '[' ++ (element.render ++ rest)) =
        .ok (List.replicate dimensions '[', element.render ++ rest) := by
    have all : ∀ c ∈ List.replicate dimensions '[', (c == '[') = true := by simp
    have ⟨taken, left⟩ := takeWhile_append_of_all all ended
    rw [takeWhile, taken, left]
  rw [render, List.append_assoc, parser]
  apply Reads.after brackets
  rw [List.length_replicate]
  by_cases many : dimensions > maxDimensions
  · rw [if_pos many]
    exact Reads.of_error rfl (Nat.not_le_of_gt many)
  · rw [if_neg many]
    have element := (Reads.of_ok (ElementType.parser_reads wellFormed rest)).bind_pure
      (FieldType.mk dimensions)
    exact element.congr (iff_of_true trivial (Nat.le_of_not_gt many))

namespace MethodDescriptor

theorem parameterParser_reads {type : FieldType} (wellFormed : type.element.WellFormed)
    (rest : List Char) :
    parameterParser.Reads (type.render ++ rest) (type.dimensions ≤ maxDimensions) (some type)
      rest := by
  have notEnd : ∀ c ∈ (type.render ++ rest).head?, c ≠ ')' :=
    fun c first => (FieldType.head?_render_append c first).1
  exact Reads.after (eat_of_ne notEnd) ((FieldType.parser_reads wellFormed rest).bind_pure some)

/-- The return type of a method, or `none` for a method that returns nothing. -/
def returnParser : TextParser Unit (Option FieldType) := do
  if ← eat 'V' then return none
  some <$> FieldType.parser

theorem parser_eq : parser = do
    expect '(' ()
    let parameters ← collect () parameterParser
    let returned ← returnParser
    finish ()
    return ⟨parameters, returned⟩ := by
  simp only [parser, returnParser, bind_assoc]
  congr! with _ parameters returnsNothing
  cases returnsNothing <;> simp

theorem returnParser_reads {returnType : Option FieldType}
    (wellFormed : ∀ type ∈ returnType, type.element.WellFormed) :
    returnParser.Reads (renderReturn returnType)
      (∀ type ∈ returnType, type.dimensions ≤ maxDimensions) returnType [] := by
  cases returnType with
  | none => exact (Reads.after (eat_self 'V' []) (Reads.of_ok rfl)).congr (by simp)
  | some type =>
    have notVoid : ∀ c ∈ type.render.head?, c ≠ 'V' := by
      intro c first
      rw [← List.append_nil type.render] at first
      exact (FieldType.head?_render_append c first).2
    have read := FieldType.parser_reads (wellFormed type rfl) []
    rw [List.append_nil] at read
    exact (Reads.after (eat_of_ne notVoid) (read.map some)).congr (by simp)

/-- The text of a method descriptor is read to its end, unless an array in it has too many
dimensions. -/
theorem parser_reads {descriptor : MethodDescriptor}
    (wellFormed : ∀ type ∈ descriptor.types, type.element.WellFormed) :
    parser.Reads descriptor.render (∀ type ∈ descriptor.types, type.dimensions ≤ maxDimensions)
      descriptor [] := by
  rw [types, List.forall_mem_append] at wellFormed
  have returnRead := returnParser_reads fun type returned =>
    wellFormed.2 type (Option.mem_toList.mpr returned)
  have parametersRead := collect_reads_each () (fun type _ => FieldType.render_ne_nil type)
    (fun type others isSuffix =>
      parameterParser_reads (wellFormed.1 type (isSuffix.subset List.mem_cons_self)) _)
    (rfl : parameterParser (')' :: renderReturn descriptor.returnType) = .ok (none, _))
  have text : descriptor.render = '(' :: (descriptor.parameters.flatMap FieldType.render ++
      ')' :: renderReturn descriptor.returnType) := by
    simp [render]
  rw [parser_eq, text, types, List.forall_mem_append]
  refine (Reads.after (expect_self _ _ _) (parametersRead.bind (returnRead.bind
    (.after rfl (.of_ok rfl))))).congr ?_
  simp

end MethodDescriptor

end JvmGenerics
