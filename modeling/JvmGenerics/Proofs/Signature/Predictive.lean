import JvmGenerics.Proofs.Signature.Accepted
import JvmGenerics.Proofs.Text.Lookahead

/-!
# The grammar decides on the next character

Every production of the grammar of signatures is predictive, where the delimiters are those that
end a name, and every item of a list takes something of the text.
-/

namespace JvmGenerics.Signature

open TextParser

theorem furtherPackageName_advances : Advances furtherPackageName :=
  .of_accepts furtherPackageName_accepts fun name _ => List.cons_ne_nil '/' name.toList

section Parts

variable {reference : Parser ReferenceType} {levels : Nat}
variable (accepts : reference.Accepts ReferenceType.render
  fun type => type.WellFormed ∧ type.Fits levels)
include accepts

theorem argument_advances : Advances (argument reference) :=
  .of_accepts (argument_accepts accepts) fun entry good =>
    entry.render_ne_nil fun type given => (good type given).1

theorem memberClass_advances : Advances (memberClass reference) :=
  .of_accepts (memberClass_accepts accepts) fun _ _ => List.cons_ne_nil '.' _

end Parts

theorem interfaceBound_advances : Advances interfaceBound :=
  .of_accepts interfaceBound_accepts fun bound _ => List.cons_ne_nil ':' bound.render

theorem typeParameter_advances : Advances typeParameter :=
  .of_accepts typeParameter_accepts fun parameter _ => by simp [TypeParameter.render]

theorem interface_advances : Advances interface :=
  .of_accepts interface_accepts fun type _ => by simp [ClassType.render]

theorem parameter_advances : Advances parameter :=
  .of_accepts parameter_accepts fun _ good => TypeSignature.render_ne_nil good.1

theorem thrown_advances : Advances thrown :=
  .of_accepts thrown_accepts fun type _ => List.cons_ne_nil '^' type.render

theorem uniform_isDelimiter : Uniform isDelimiter := by
  intro c delimiter
  simp only [isDelimiter, Bool.or_eq_true, beq_iff_eq] at delimiter
  rcases delimiter with (((((rfl | rfl) | rfl) | rfl) | rfl) | rfl) | rfl <;> decide

/-- The parser is predictive, where names end at the delimiters of the grammar. -/
abbrev Predicts {α : Type} (parser : Parser α) : Prop :=
  parser.Predictive isDelimiter

theorem identifier_predicts : Predicts identifier :=
  (Predictive.name uniform_isDelimiter _).map String.ofList

theorem furtherPackageName_predicts : Predicts furtherPackageName := by
  refine (Predictive.eat (by decide)).bind fun slash => ?_
  cases slash with
  | true => exact identifier_predicts.bind_pure some
  | false => exact .pure none

theorem typeVariable_predicts : Predicts typeVariable := by
  refine (Predictive.expect (by decide) _).bind fun _ => ?_
  refine identifier_predicts.bind fun name => ?_
  exact (Predictive.expect (by decide) _).bind_pure _

theorem letter_toNat_lt (type : BaseType) : type.letter.toNat < 128 := by
  cases type <;> decide

theorem ofLetter?_of_beyond {c : Char} (beyond : 128 ≤ c.toNat) :
    BaseType.ofLetter? c = none := by
  rw [BaseType.ofLetter?, List.find?_eq_none]
  intro type _ same
  exact ne_of_beyond beyond (letter_toNat_lt type) (eq_of_beq same).symm

section Parts

variable {reference : Parser ReferenceType} {levels : Nat}
variable (accepts : reference.Accepts ReferenceType.render
  fun type => type.WellFormed ∧ type.Fits levels)
variable (predicts : Predicts reference)
include predicts

theorem argument_predicts : Predicts (argument reference) := by
  refine Predictive.peek_bind (fun found => ?_) ?_
  · split
    · exact .stop _
    · exact (Predictive.expect (by decide) _).bind_pure _
    · exact (Predictive.expect (by decide) _).bind_pure _
    · exact (Predictive.expect (by decide) _).bind fun _ => predicts.bind_pure _
    · exact (Predictive.expect (by decide) _).bind fun _ => predicts.bind_pure _
    · exact predicts.bind_pure _
  · intro c d first second
    simp [ne_of_beyond first, ne_of_beyond second]

theorem typeSignature_predicts : Predicts (typeSignature reference) := by
  refine Predictive.peek_bind (fun found => ?_) ?_
  · split
    · exact (Predictive.expect (letter_toNat_lt _) _).bind_pure _
    · exact predicts.bind_pure _
  · intro c d first second
    simp only [Option.bind_some, ofLetter?_of_beyond first, ofLetter?_of_beyond second]

include accepts

theorem arguments_predicts : Predicts (arguments reference) := by
  refine (Predictive.eat (by decide)).bind fun bracket => ?_
  cases bracket with
  | false => exact .pure []
  | true =>
    have found := (argument_predicts predicts).collect (argument_advances accepts)
    refine (found _).bind fun found => ?_
    cases found with
    | nil => exact .stop _
    | cons first others => exact .pure (first :: others)

theorem memberClass_predicts : Predicts (memberClass reference) := by
  refine (Predictive.eat (by decide)).bind fun point => ?_
  cases point with
  | false => exact .pure none
  | true =>
    refine identifier_predicts.bind fun name => ?_
    exact (arguments_predicts accepts predicts).bind_pure _

theorem classType_predicts : Predicts (classType reference) := by
  refine (Predictive.expect (by decide) _).bind fun _ => ?_
  refine identifier_predicts.bind fun first => ?_
  refine (furtherPackageName_predicts.collect furtherPackageName_advances _).bind fun further => ?_
  refine (arguments_predicts accepts predicts).bind fun list => ?_
  have members := (memberClass_predicts accepts predicts).collect (memberClass_advances accepts)
  refine (members _).bind fun members => ?_
  exact (Predictive.expect (by decide) _).bind_pure _

theorem referenceTypeOver_predicts : Predicts (referenceTypeOver reference) := by
  refine Predictive.peek_bind (fun found => ?_) ?_
  · split
    · exact .stop _
    · exact (classType_predicts accepts predicts).bind_pure _
    · exact typeVariable_predicts
    · refine (Predictive.takeWhile (uniform_of_ascii (by decide))).bind fun brackets => ?_
      split
      · exact (Predictive.stop _).bind fun _ => (typeSignature_predicts predicts).bind_pure _
      · exact (typeSignature_predicts predicts).bind_pure _
    · exact .stop _
  · intro c d first second
    simp [ne_of_beyond first, ne_of_beyond second]

end Parts

theorem referenceTypeWithin_predicts (levels : Nat) : Predicts (referenceTypeWithin levels) := by
  induction levels with
  | zero => exact .stop _
  | succ levels ih => exact referenceTypeOver_predicts (referenceTypeWithin_accepts levels) ih

theorem referenceType_predicts : Predicts referenceType :=
  referenceTypeWithin_predicts maxNesting

/-- A class type that stands alone, outside of every other type. -/
theorem standingClass_predicts : Predicts (classType referenceType) :=
  classType_predicts referenceType_accepts referenceType_predicts

theorem interfaceBound_predicts : Predicts interfaceBound := by
  refine (Predictive.eat (by decide)).bind fun colon => ?_
  cases colon with
  | false => exact .pure none
  | true => exact referenceType_predicts.bind_pure _

theorem classBound_predicts : Predicts classBound := by
  refine Predictive.peek_bind (fun found => ?_) ?_
  · split
    · exact referenceType_predicts.bind_pure _
    · exact referenceType_predicts.bind_pure _
    · exact referenceType_predicts.bind_pure _
    · exact .pure none
  · intro c d first second
    simp [ne_of_beyond first, ne_of_beyond second]

theorem typeParameter_predicts : Predicts typeParameter := by
  refine Predictive.peek_bind (fun found => ?_) ?_
  · split
    · exact .stop _
    · exact (Predictive.expect (by decide) _).bind_pure _
    · refine identifier_predicts.bind fun name => ?_
      refine (Predictive.expect (by decide) _).bind fun _ => ?_
      refine classBound_predicts.bind fun first => ?_
      exact (interfaceBound_predicts.collect interfaceBound_advances _).bind_pure _
  · intro c d first second
    simp [ne_of_beyond first, ne_of_beyond second]

theorem typeParameters_predicts : Predicts typeParameters := by
  refine (Predictive.eat (by decide)).bind fun bracket => ?_
  cases bracket with
  | false => exact .pure []
  | true =>
    refine (typeParameter_predicts.collect typeParameter_advances _).bind fun found => ?_
    cases found with
    | nil => exact .stop _
    | cons first others => exact .pure (first :: others)

theorem interface_predicts : Predicts interface := by
  refine Predictive.peek_bind (fun found => ?_) fun _ _ _ _ => rfl
  cases found with
  | none => exact .pure none
  | some _ => exact standingClass_predicts.bind_pure _

theorem parameter_predicts : Predicts parameter := by
  refine (Predictive.eat (by decide)).bind fun closed => ?_
  cases closed with
  | true => exact .pure none
  | false => exact (typeSignature_predicts referenceType_predicts).bind_pure _

theorem thrown_predicts : Predicts thrown := by
  refine (Predictive.eat (by decide)).bind fun circumflex => ?_
  cases circumflex with
  | false => exact .pure none
  | true =>
    refine Predictive.peek_bind (fun found => ?_) ?_
    · split
      · exact typeVariable_predicts.bind_pure _
      · exact standingClass_predicts.bind_pure _
    · intro c d first second
      simp [ne_of_beyond first, ne_of_beyond second]

theorem returnType_predicts : Predicts returnType := by
  refine (Predictive.eat (by decide)).bind fun returnsNothing => ?_
  cases returnsNothing with
  | true => exact .pure none
  | false => exact (typeSignature_predicts referenceType_predicts).map some

theorem classSignature_predicts : Predicts classSignature := by
  refine typeParameters_predicts.bind fun parameters => ?_
  refine standingClass_predicts.bind fun superclass => ?_
  exact (interface_predicts.collect interface_advances _).bind_pure _

theorem methodSignature_predicts : Predicts methodSignature := by
  rw [methodSignature_eq]
  refine typeParameters_predicts.bind fun declared => ?_
  refine (Predictive.expect (by decide) _).bind fun _ => ?_
  refine (parameter_predicts.collect parameter_advances _).bind fun parameters => ?_
  refine returnType_predicts.bind fun returned => ?_
  refine (thrown_predicts.collect thrown_advances _).bind fun throws => ?_
  exact (Predictive.finish _).bind_pure _

theorem fieldSignature_predicts : Predicts fieldSignature :=
  referenceType_predicts.bind fun _ => (Predictive.finish _).bind_pure _

end JvmGenerics.Signature
