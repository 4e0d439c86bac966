import JvmGenerics.Proofs.Descriptor

/-!
# Descriptors and their texts

A text is accepted as a descriptor exactly if it is the text of a well-formed field type or of a
well-formed method descriptor, and it is then read as that. Each descriptor has one text and each
text belongs to one descriptor at most, whatever characters stand in the names of classes. Every
other text is refused as a whole, wherever in it the fault may be.
-/

namespace JvmGenerics

open TextParser

/-- A class name in the type ends where it should, and an array has at most 255 dimensions. -/
structure FieldType.WellFormed (type : FieldType) : Prop where
  element : type.element.WellFormed
  dimensions_le : type.dimensions ≤ 255

/-- Every parameter and the return type are well formed. -/
def MethodDescriptor.WellFormed (descriptor : MethodDescriptor) : Prop :=
  ∀ type ∈ descriptor.types, type.WellFormed

theorem BaseType.letter_of_ofLetter? {wanted : Char} {type : BaseType}
    (found : ofLetter? wanted = some type) : type.letter = wanted := by
  simpa using List.find?_some found

theorem ElementType.parser_accepts :
    parser.Accepts ElementType.render ElementType.WellFormed := by
  intro text element rest read
  rw [parser, peek_bind] at read
  cases starts : text.head? with
  | none =>
    rw [starts] at read
    cases read
  | some next =>
    rw [starts] at read
    cases letter : BaseType.ofLetter? next with
    | some type =>
      simp only [letter] at read
      obtain ⟨_, answer, rfl⟩ := expect_bind_eq_ok read
      obtain ⟨rfl, rfl⟩ := pure_eq_ok_iff.mp answer
      rw [render, BaseType.letter_of_ofLetter? letter]
      exact ⟨rfl, trivial⟩
    | none =>
      simp only [letter] at read
      obtain ⟨_, named, rfl⟩ := expect_bind_eq_ok read
      obtain ⟨name, _, taken, ended⟩ := bind_eq_ok_iff.mp named
      obtain ⟨rfl, nonempty, all⟩ := takeWhile1_eq_ok taken
      obtain ⟨_, answer, rfl⟩ := expect_bind_eq_ok ended
      obtain ⟨rfl, rfl⟩ := pure_eq_ok_iff.mp answer
      rw [WellFormed, render, String.toList_ofList]
      refine ⟨by simp, nonempty, fun member => ?_⟩
      simpa using all ';' member

theorem FieldType.parser_accepts : parser.Accepts FieldType.render FieldType.WellFormed := by
  intro text type rest read
  obtain ⟨brackets, _, taken, counted⟩ := bind_eq_ok_iff.mp read
  obtain ⟨rfl, all, -⟩ := takeWhile_eq_ok taken
  by_cases many : brackets.length > maxDimensions
  · rw [if_pos many] at counted
    cases counted
  · rw [if_neg many] at counted
    obtain ⟨element, _, wellFormed, answer, rfl⟩ := ElementType.parser_accepts.of_bind counted
    obtain ⟨rfl, rfl⟩ := pure_eq_ok_iff.mp answer
    have sameBrackets : brackets = List.replicate brackets.length '[' :=
      List.eq_replicate_of_mem fun c member => by simpa using all c member
    refine ⟨?_, wellFormed, Nat.le_of_not_lt many⟩
    rw [render, ← sameBrackets, List.append_assoc]

namespace MethodDescriptor

theorem parameterParser_accepts : parameterParser.Accepts (itemText FieldType.render [')'])
    fun found => ∀ type ∈ found, type.WellFormed := by
  intro text found rest read
  obtain ⟨closed, _, afterParenthesis, rfl⟩ := eat_bind_eq_ok read
  cases closed with
  | true =>
    obtain ⟨rfl, rfl⟩ := pure_eq_ok_iff.mp afterParenthesis
    exact ⟨rfl, by simp⟩
  | false =>
    obtain ⟨type, _, wellFormed, answer, rfl⟩ := FieldType.parser_accepts.of_bind afterParenthesis
    obtain ⟨rfl, rfl⟩ := pure_eq_ok_iff.mp answer
    exact ⟨rfl, by simpa using wellFormed⟩

theorem returnParser_accepts : returnParser.Accepts renderReturn
    fun returnType => ∀ type ∈ returnType, type.WellFormed := by
  intro text returnType rest read
  obtain ⟨returnsNothing, _, afterLetter, rfl⟩ := eat_bind_eq_ok read
  cases returnsNothing with
  | true =>
    obtain ⟨rfl, rfl⟩ := pure_eq_ok_iff.mp afterLetter
    exact ⟨rfl, by simp⟩
  | false =>
    obtain ⟨type, returned, rfl⟩ := map_eq_ok_iff.mp afterLetter
    obtain ⟨rfl, wellFormed⟩ := FieldType.parser_accepts returned
    exact ⟨rfl, by simpa using wellFormed⟩

theorem parser_accepts : parser.Accepts (fun descriptor => descriptor.render) WellFormed := by
  intro text descriptor rest read
  rw [parser_eq] at read
  obtain ⟨_, opened, rfl⟩ := expect_bind_eq_ok read
  obtain ⟨parameters, _, parametersGood, closed, rfl⟩ :=
    (collect_accepts _ parameterParser_accepts).of_bind opened
  obtain ⟨returnType, _, returnGood, returned, rfl⟩ := returnParser_accepts.of_bind closed
  obtain ⟨_, _, ended, answer⟩ := bind_eq_ok_iff.mp returned
  obtain ⟨rfl, rfl⟩ := finish_eq_ok ended
  obtain ⟨rfl, rfl⟩ := pure_eq_ok_iff.mp answer
  refine ⟨by simp [render], ?_⟩
  rw [WellFormed, types, List.forall_mem_append]
  exact ⟨parametersGood, fun type member => returnGood type (Option.mem_toList.mp member)⟩

theorem parser_rest {text rest : List Char} {descriptor : MethodDescriptor}
    (read : parser text = .ok (descriptor, rest)) : rest = [] := by
  rw [parser_eq] at read
  obtain ⟨_, opened, -⟩ := expect_bind_eq_ok read
  obtain ⟨_, _, _, closed⟩ := bind_eq_ok_iff.mp opened
  obtain ⟨_, _, _, returned⟩ := bind_eq_ok_iff.mp closed
  obtain ⟨_, _, ended, answer⟩ := bind_eq_ok_iff.mp returned
  obtain ⟨-, rfl⟩ := finish_eq_ok ended
  exact (pure_eq_ok_iff.mp answer).2.symm

end MethodDescriptor

section Whole

variable {α : Type} {parser : TextParser Unit α} {descriptor : String}

/-- What a descriptor parser makes of a whole text. -/
def outcome (parser : TextParser Unit α) (descriptor : String) : Except DescriptorError α :=
  (TextParser.parse parser descriptor.toList).mapError fun _ => ⟨descriptor⟩

theorem outcome_of_ok {value : α} {rest : List Char}
    (read : parser descriptor.toList = .ok (value, rest)) :
    outcome parser descriptor = .ok value := by
  rw [outcome, TextParser.parse, read]
  rfl

theorem outcome_of_error {stopped : Stop Unit}
    (failed : parser descriptor.toList = .error stopped) :
    outcome parser descriptor = .error ⟨descriptor⟩ := by
  rw [outcome, TextParser.parse, failed]
  rfl

/-- A parser that reads the texts of good values, all of each, accepts exactly these texts. -/
theorem outcome_exact {render : α → List Char} {good : α → Prop}
    (accepts : parser.Accepts render good)
    (ends : ∀ {text value rest}, parser text = .ok (value, rest) → rest = [])
    (reads : ∀ value, good value → parser (render value) = .ok (value, []))
    (descriptor : String) :
    (∀ value, outcome parser descriptor = .ok value ↔
        good value ∧ String.ofList (render value) = descriptor) ∧
      ∀ error, outcome parser descriptor = .error error ↔ error = ⟨descriptor⟩ ∧
        ¬∃ value, good value ∧ String.ofList (render value) = descriptor := by
  have accepted {value : α} (isText : good value ∧ String.ofList (render value) = descriptor) :
      outcome parser descriptor = .ok value := by
    obtain ⟨isGood, rfl⟩ := isText
    apply outcome_of_ok
    rw [String.toList_ofList]
    exact reads value isGood
  cases read : parser descriptor.toList with
  | ok answer =>
    obtain ⟨found, rest⟩ := answer
    obtain rfl := ends read
    obtain ⟨text, isGood⟩ := accepts read
    have isText : String.ofList (render found) = descriptor := by
      rw [← String.ofList_toList (s := descriptor), text, List.append_nil]
    rw [outcome_of_ok read]
    refine ⟨fun value => ⟨?_, fun isText => ?_⟩, fun error => ⟨nofun, fun refused => ?_⟩⟩
    · rintro ⟨⟩
      exact ⟨isGood, isText⟩
    · exact (outcome_of_ok read).symm.trans (accepted isText)
    · exact absurd ⟨found, isGood, isText⟩ refused.2
  | error stopped =>
    have refused := outcome_of_error read
    have noText : ¬∃ value, good value ∧ String.ofList (render value) = descriptor := by
      rintro ⟨value, isText⟩
      cases refused.symm.trans (accepted isText)
    rw [refused]
    refine ⟨fun value => ⟨nofun, fun isText => absurd ⟨value, isText⟩ noText⟩, fun error => ?_⟩
    rw [Except.error.injEq, eq_comm]
    exact (and_iff_left noText).symm

end Whole

namespace FieldType

/-- A field type with nothing behind it. -/
def wholeParser : TextParser Unit FieldType := do
  let type ← parser
  finish ()
  return type

theorem wholeParser_accepts : wholeParser.Accepts FieldType.render WellFormed := by
  intro text type rest read
  obtain ⟨_, _, wellFormed, finished, rfl⟩ := parser_accepts.of_bind read
  obtain ⟨_, _, ended, answer⟩ := bind_eq_ok_iff.mp finished
  obtain ⟨rfl, rfl⟩ := finish_eq_ok ended
  obtain ⟨rfl, rfl⟩ := pure_eq_ok_iff.mp answer
  exact ⟨rfl, wellFormed⟩

theorem wholeParser_rest {text rest : List Char} {type : FieldType}
    (read : wholeParser text = .ok (type, rest)) : rest = [] := by
  obtain ⟨_, _, _, finished⟩ := bind_eq_ok_iff.mp read
  obtain ⟨_, _, ended, answer⟩ := bind_eq_ok_iff.mp finished
  obtain ⟨-, rfl⟩ := finish_eq_ok ended
  exact (pure_eq_ok_iff.mp answer).2.symm

theorem wholeParser_reads {type : FieldType} (wellFormed : type.WellFormed) :
    wholeParser type.render = .ok (type, []) := by
  have read := (parser_reads wellFormed.element []).1 wellFormed.dimensions_le
  rw [List.append_nil] at read
  rw [wholeParser, bind_of_ok read]
  rfl

end FieldType

theorem MethodDescriptor.parser_render {descriptor : MethodDescriptor}
    (wellFormed : descriptor.WellFormed) : parser descriptor.render = .ok (descriptor, []) :=
  (parser_reads fun type member => (wellFormed type member).element).1
    fun type member => (wellFormed type member).dimensions_le

/-- A text is accepted as the descriptor of a field or of a method exactly if it is the text of
a well-formed one, which it is then read as, and every other text is refused with the whole of
it. -/
theorem descriptor_exact (descriptor : String) :
    ((∀ type, FieldType.parse descriptor = .ok type ↔
        type.WellFormed ∧ String.ofList type.render = descriptor) ∧
      ∀ error, FieldType.parse descriptor = .error error ↔ error = ⟨descriptor⟩ ∧
        ¬∃ type : FieldType, type.WellFormed ∧ String.ofList type.render = descriptor) ∧
    (∀ method, MethodDescriptor.parse descriptor = .ok method ↔
        method.WellFormed ∧ String.ofList method.render = descriptor) ∧
      ∀ error, MethodDescriptor.parse descriptor = .error error ↔ error = ⟨descriptor⟩ ∧
        ¬∃ method : MethodDescriptor, method.WellFormed ∧
          String.ofList method.render = descriptor := by
  constructor
  · exact outcome_exact FieldType.wholeParser_accepts FieldType.wholeParser_rest
      (fun _ => FieldType.wholeParser_reads) descriptor
  · exact outcome_exact MethodDescriptor.parser_accepts MethodDescriptor.parser_rest
      (fun _ => MethodDescriptor.parser_render) descriptor

/-- The parenthesis, the letter and the bracket in front of the semicolon belong to the name. -/
example : MethodDescriptor.parse "(L)V[;)V" = .ok ⟨[⟨0, .object ")V["⟩], none⟩ := by
  decide +kernel

end JvmGenerics
