import JvmGenerics.Proofs.Signature.WellFormed
import JvmGenerics.Proofs.Text.Reading

/-!
# What is accepted as a signature

An accepted text is the text of the signature that was read from it, down to the last
character, and that signature is well formed and keeps within the limits of nesting and of
array dimensions.
-/

namespace JvmGenerics.Signature

open TextParser

theorem identifier_accepts : identifier.Accepts String.toList IsIdentifier := by
  intro text name rest read
  obtain ⟨taken, took, rfl⟩ := map_eq_ok_iff.mp read
  obtain ⟨rfl, nonempty, all⟩ := takeWhile1_eq_ok took
  rw [IsIdentifier, String.toList_ofList]
  exact ⟨rfl, nonempty, fun c member => by simpa using all c member⟩

theorem furtherPackageName_accepts :
    furtherPackageName.Accepts (itemText (fun name => '/' :: name.toList) [])
      fun found => ∀ name ∈ found, IsIdentifier name := by
  intro text found rest read
  obtain ⟨slash, _, afterSlash, rfl⟩ := eat_bind_eq_ok read
  cases slash with
  | false =>
    obtain ⟨rfl, rfl⟩ := pure_eq_ok_iff.mp afterSlash
    exact ⟨rfl, by simp⟩
  | true =>
    obtain ⟨name, _, isIdentifier, answer, rfl⟩ := identifier_accepts.of_bind afterSlash
    obtain ⟨rfl, rfl⟩ := pure_eq_ok_iff.mp answer
    exact ⟨rfl, by simpa using isIdentifier⟩

theorem typeVariable_accepts : typeVariable.Accepts ReferenceType.render
    fun type => ∃ name, type = .typeVariable name ∧ IsIdentifier name := by
  intro text type rest read
  obtain ⟨_, named, rfl⟩ := expect_bind_eq_ok read
  obtain ⟨name, _, isIdentifier, ended, rfl⟩ := identifier_accepts.of_bind named
  obtain ⟨_, answer, rfl⟩ := expect_bind_eq_ok ended
  obtain ⟨rfl, rfl⟩ := pure_eq_ok_iff.mp answer
  exact ⟨by simp [ReferenceType.render], name, rfl, isIdentifier⟩

/-- The last of some names is the class, and the names before it are the package. -/
theorem packageText_eq (first : String) (further : List String) :
    ((first :: further).dropLast.flatMap fun segment => segment.toList ++ ['/']) ++
        ((first :: further).getLastD first).toList =
      first.toList ++ further.flatMap fun name => '/' :: name.toList := by
  induction further generalizing first with
  | nil => simp
  | cons second further ih =>
    rw [List.dropLast_cons_cons, List.flatMap_cons, List.flatMap_cons, List.append_assoc]
    have last : (first :: second :: further).getLastD first =
        (second :: further).getLastD second := by simp only [List.getLastD_cons]
    rw [last, ih second]
    simp

section Parts

variable {reference : Parser ReferenceType} {levels : Nat}
variable (accepts : reference.Accepts ReferenceType.render
  fun type => type.WellFormed ∧ type.Fits levels)
include accepts

theorem boundedArgument_accepts (variance : Variance) {text rest : List Char}
    {found : Option TypeArgument}
    (read : (reference >>= fun type => pure (some (TypeArgument.bounded variance type))) text =
      .ok (found, rest)) :
    variance.render ++ text = itemText TypeArgument.render ['>'] found ++ rest ∧
      ∀ argument ∈ found, ∀ type ∈ argument.type?, type.WellFormed ∧ type.Fits levels := by
  obtain ⟨type, _, good, answer, rfl⟩ := accepts.of_bind read
  obtain ⟨rfl, rfl⟩ := pure_eq_ok_iff.mp answer
  exact ⟨by simp [itemText, TypeArgument.render], by simpa [TypeArgument.type?] using good⟩

theorem argument_accepts : (argument reference).Accepts (itemText TypeArgument.render ['>'])
    fun found => ∀ argument ∈ found, ∀ type ∈ argument.type?,
      type.WellFormed ∧ type.Fits levels := by
  intro text found rest read
  rw [argument, peek_bind] at read
  beta_reduce at read ⊢
  generalize text.head? = next at read
  split at read
  · cases read
  · obtain ⟨_, answer, rfl⟩ := expect_bind_eq_ok read
    obtain ⟨rfl, rfl⟩ := pure_eq_ok_iff.mp answer
    exact ⟨rfl, by simp⟩
  · obtain ⟨_, answer, rfl⟩ := expect_bind_eq_ok read
    obtain ⟨rfl, rfl⟩ := pure_eq_ok_iff.mp answer
    exact ⟨rfl, by simp [TypeArgument.type?]⟩
  · obtain ⟨_, bounded, rfl⟩ := expect_bind_eq_ok read
    exact boundedArgument_accepts accepts .covariant bounded
  · obtain ⟨_, bounded, rfl⟩ := expect_bind_eq_ok read
    exact boundedArgument_accepts accepts .contravariant bounded
  · exact boundedArgument_accepts accepts .invariant read

theorem arguments_accepts : (arguments reference).Accepts
    (fun list => bracketed list (TypeArgument.renderEach list))
    fun list => TypeArgument.WellFormedEach list ∧ TypeArgument.FitsEach levels list := by
  intro text list rest read
  beta_reduce
  rw [TypeArgument.wellFormedEach_iff, TypeArgument.fitsEach_iff]
  obtain ⟨bracket, _, afterBracket, rfl⟩ := eat_bind_eq_ok read
  cases bracket with
  | false =>
    obtain ⟨rfl, rfl⟩ := pure_eq_ok_iff.mp afterBracket
    exact ⟨rfl, by simp⟩
  | true =>
    obtain ⟨found, _, good, answer, rfl⟩ :=
      (collect_accepts _ (argument_accepts accepts)).of_bind afterBracket
    cases found with
    | nil => cases answer
    | cons argument others =>
      obtain ⟨rfl, rfl⟩ := pure_eq_ok_iff.mp answer
      rw [TypeArgument.renderEach_eq_flatMap]
      exact ⟨by simp [bracketed], fun entry member type given => (good entry member type given).1,
        fun entry member type given => (good entry member type given).2⟩

theorem memberClass_accepts : (memberClass reference).Accepts
    (itemText (fun segment => '.' :: ClassType.segmentText segment) [])
    fun found => ∀ segment ∈ found, (IsIdentifier segment.1 ∧
      TypeArgument.WellFormedEach segment.2) ∧ TypeArgument.FitsEach levels segment.2 := by
  intro text found rest read
  obtain ⟨point, _, afterPoint, rfl⟩ := eat_bind_eq_ok read
  cases point with
  | false =>
    obtain ⟨rfl, rfl⟩ := pure_eq_ok_iff.mp afterPoint
    exact ⟨rfl, by simp⟩
  | true =>
    obtain ⟨name, _, isIdentifier, named, rfl⟩ := identifier_accepts.of_bind afterPoint
    obtain ⟨list, _, ⟨wellFormed, fits⟩, answer, rfl⟩ := (arguments_accepts accepts).of_bind named
    obtain ⟨rfl, rfl⟩ := pure_eq_ok_iff.mp answer
    refine ⟨by simp [itemText, ClassType.segmentText], ?_⟩
    rintro segment ⟨⟩
    exact ⟨⟨isIdentifier, wellFormed⟩, fits⟩

theorem classType_accepts : (classType reference).Accepts ClassType.render
    fun type => type.WellFormed ∧ type.Fits levels := by
  intro text type rest read
  obtain ⟨_, started, rfl⟩ := expect_bind_eq_ok read
  obtain ⟨first, _, isIdentifier, named, rfl⟩ := identifier_accepts.of_bind started
  obtain ⟨further, _, areIdentifiers, packaged, rfl⟩ :=
    (collect_accepts _ furtherPackageName_accepts).of_bind named
  obtain ⟨list, _, ⟨wellFormed, fits⟩, given, rfl⟩ := (arguments_accepts accepts).of_bind packaged
  obtain ⟨members, _, good, ended, rfl⟩ :=
    (collect_accepts _ (memberClass_accepts accepts)).of_bind given
  obtain ⟨_, answer, rfl⟩ := expect_bind_eq_ok ended
  obtain ⟨rfl, rfl⟩ := pure_eq_ok_iff.mp answer
  have names : ∀ name ∈ first :: further, IsIdentifier name :=
    List.forall_mem_cons.mpr ⟨isIdentifier, areIdentifiers⟩
  have before : ∀ segment ∈ (first :: further).dropLast, IsIdentifier segment :=
    fun segment member => names segment (List.dropLast_subset _ member)
  have last : IsIdentifier ((first :: further).getLastD first) :=
    names _ (by rw [List.getLastD_cons]; exact List.getLastD_mem_cons)
  have split := packageText_eq first further
  generalize (first :: further).dropLast = package at *
  generalize (first :: further).getLastD first = name at *
  change _ = (ClassType.ofParts package name list members).render ++ _ ∧
    (ClassType.ofParts package name list members).WellFormed ∧
      (ClassType.ofParts package name list members).Fits levels
  rw [ClassType.render, ClassType.renderOpen_ofParts, ClassType.wellFormed_iff,
    ClassType.fits_iff, ClassType.packageNames_ofParts, ClassType.segments_ofParts,
    List.forall_mem_cons, List.forall_mem_cons]
  refine ⟨?_, ⟨before, ⟨last, wellFormed⟩, fun segment member => (good segment member).1⟩,
    fits, fun segment member => (good segment member).2⟩
  rw [ClassType.segmentText, ← List.append_assoc (package.flatMap _), split]
  simp

theorem typeSignature_accepts : (typeSignature reference).Accepts TypeSignature.render
    fun type => type.WellFormed ∧ type.Fits levels := by
  intro text type rest read
  rw [typeSignature, peek_bind] at read
  beta_reduce at read ⊢
  generalize text.head?.bind BaseType.ofLetter? = found at read
  split at read
  · obtain ⟨_, answer, rfl⟩ := expect_bind_eq_ok read
    obtain ⟨rfl, rfl⟩ := pure_eq_ok_iff.mp answer
    exact ⟨by simp [TypeSignature.render], trivial, TypeSignature.fits_base levels _⟩
  · obtain ⟨type, _, good, answer, rfl⟩ := accepts.of_bind read
    obtain ⟨rfl, rfl⟩ := pure_eq_ok_iff.mp answer
    exact ⟨by simp [TypeSignature.render], good.1, TypeSignature.fits_reference_iff.mpr good.2⟩

theorem referenceTypeOver_accepts : (referenceTypeOver reference).Accepts ReferenceType.render
    fun type => type.WellFormed ∧ type.Fits (levels + 1) := by
  intro text type rest read
  rw [referenceTypeOver, peek_bind] at read
  beta_reduce at read ⊢
  generalize starts : text.head? = next at read
  split at read
  · cases read
  · obtain ⟨type, _, good, answer, rfl⟩ := (classType_accepts accepts).of_bind read
    obtain ⟨rfl, rfl⟩ := pure_eq_ok_iff.mp answer
    exact ⟨by simp [ReferenceType.render, ClassType.render], good.1,
      ReferenceType.fits_classType_iff.mpr good.2⟩
  · obtain ⟨rfl, name, rfl, isIdentifier⟩ := typeVariable_accepts read
    exact ⟨rfl, isIdentifier, ReferenceType.fits_typeVariable name⟩
  · obtain ⟨brackets, _, taken, counted⟩ := bind_eq_ok_iff.mp read
    obtain ⟨rfl, all, ended⟩ := takeWhile_eq_ok taken
    by_cases many : brackets.length > maxDimensions
    · rw [if_pos many] at counted
      cases counted
    rw [if_neg many] at counted
    obtain ⟨component, _, ⟨wellFormed, fits⟩, answer, rfl⟩ :=
      (typeSignature_accepts accepts).of_bind counted
    obtain ⟨rfl, rfl⟩ := pure_eq_ok_iff.mp answer
    have nonempty : brackets ≠ [] := by
      rintro rfl
      simpa using ended _ starts
    obtain ⟨tail, componentStarts⟩ := TypeSignature.exists_render_eq wellFormed
    have notArray : component.isArray = false := by
      rw [← Bool.not_eq_true, TypeSignature.isArray_eq_true_iff]
      intro isBracket
      simp [componentStarts, isBracket] at ended
    refine ⟨?_, ⟨List.length_pos_iff.mpr nonempty, notArray, wellFormed⟩,
      ReferenceType.fits_array_iff.mpr ⟨Nat.le_of_not_lt many, fits⟩⟩
    rw [ReferenceType.render, List.append_assoc,
      ← List.eq_replicate_of_mem fun c member => by simpa using all c member]
  · cases read

end Parts

theorem referenceTypeWithin_accepts (levels : Nat) :
    (referenceTypeWithin levels).Accepts ReferenceType.render
      fun type => type.WellFormed ∧ type.Fits levels := by
  induction levels with
  | zero =>
    intro text type rest read
    cases read
  | succ levels ih => exact referenceTypeOver_accepts ih

theorem referenceType_accepts : referenceType.Accepts ReferenceType.render
    fun type => type.WellFormed ∧ type.Fits maxNesting :=
  referenceTypeWithin_accepts maxNesting

theorem interfaceBound_accepts :
    interfaceBound.Accepts (itemText (fun bound => ':' :: bound.render) [])
      fun found => ∀ bound ∈ found, bound.WellFormed ∧ bound.Fits maxNesting := by
  intro text found rest read
  obtain ⟨colon, _, afterColon, rfl⟩ := eat_bind_eq_ok read
  cases colon with
  | false =>
    obtain ⟨rfl, rfl⟩ := pure_eq_ok_iff.mp afterColon
    exact ⟨rfl, by simp⟩
  | true =>
    obtain ⟨bound, _, good, answer, rfl⟩ := referenceType_accepts.of_bind afterColon
    obtain ⟨rfl, rfl⟩ := pure_eq_ok_iff.mp answer
    exact ⟨rfl, by simpa using good⟩

theorem classBound_accepts :
    classBound.Accepts (fun found => found.elim [] ReferenceType.render)
      fun found => ∀ bound ∈ found, bound.WellFormed ∧ bound.Fits maxNesting := by
  have given {text rest : List Char} {found : Option ReferenceType}
      (read : (referenceType >>= fun bound => pure (some bound)) text = .ok (found, rest)) :
      text = found.elim [] ReferenceType.render ++ rest ∧
        ∀ bound ∈ found, bound.WellFormed ∧ bound.Fits maxNesting := by
    obtain ⟨bound, _, good, answer, rfl⟩ := referenceType_accepts.of_bind read
    obtain ⟨rfl, rfl⟩ := pure_eq_ok_iff.mp answer
    exact ⟨rfl, by simpa using good⟩
  intro text found rest read
  rw [classBound, peek_bind] at read
  beta_reduce at read ⊢
  generalize text.head? = next at read
  split at read
  · exact given read
  · exact given read
  · exact given read
  · obtain ⟨rfl, rfl⟩ := pure_eq_ok_iff.mp read
    exact ⟨rfl, by simp⟩

theorem typeParameter_accepts : typeParameter.Accepts (itemText TypeParameter.render ['>'])
    fun found => ∀ parameter ∈ found, parameter.WellFormed ∧ parameter.Fits := by
  intro text found rest read
  rw [typeParameter, peek_bind] at read
  beta_reduce at read ⊢
  generalize text.head? = next at read
  split at read
  · cases read
  · obtain ⟨_, answer, rfl⟩ := expect_bind_eq_ok read
    obtain ⟨rfl, rfl⟩ := pure_eq_ok_iff.mp answer
    exact ⟨rfl, by simp⟩
  · obtain ⟨name, _, isIdentifier, named, rfl⟩ := identifier_accepts.of_bind read
    obtain ⟨_, afterColon, rfl⟩ := expect_bind_eq_ok named
    obtain ⟨first, _, firstGood, bounded, rfl⟩ := classBound_accepts.of_bind afterColon
    obtain ⟨others, _, othersGood, answer, rfl⟩ :=
      (collect_accepts _ interfaceBound_accepts).of_bind bounded
    obtain ⟨rfl, rfl⟩ := pure_eq_ok_iff.mp answer
    have bounds : ∀ bound ∈ first.toList ++ others, bound.WellFormed ∧ bound.Fits maxNesting := by
      rw [List.forall_mem_append]
      exact ⟨by simpa using firstGood, othersGood⟩
    refine ⟨by simp [itemText, TypeParameter.render], ?_⟩
    rintro parameter ⟨⟩
    exact ⟨⟨isIdentifier, fun bound member => (bounds bound member).1⟩,
      fun bound member => (bounds bound member).2⟩

theorem typeParameters_accepts : typeParameters.Accepts TypeParameter.renderList
    fun list => ∀ parameter ∈ list, parameter.WellFormed ∧ parameter.Fits := by
  intro text list rest read
  obtain ⟨bracket, _, afterBracket, rfl⟩ := eat_bind_eq_ok read
  cases bracket with
  | false =>
    obtain ⟨rfl, rfl⟩ := pure_eq_ok_iff.mp afterBracket
    exact ⟨rfl, by simp⟩
  | true =>
    obtain ⟨found, _, good, answer, rfl⟩ :=
      (collect_accepts _ typeParameter_accepts).of_bind afterBracket
    cases found with
    | nil => cases answer
    | cons parameter others =>
      obtain ⟨rfl, rfl⟩ := pure_eq_ok_iff.mp answer
      exact ⟨by simp [TypeParameter.renderList, bracketed], good⟩

theorem interface_accepts : interface.Accepts (itemText ClassType.render [])
    fun found => ∀ type ∈ found, type.WellFormed ∧ type.Fits maxNesting := by
  intro text found rest read
  rw [interface, peek_bind] at read
  beta_reduce at read ⊢
  generalize text.head? = next at read
  split at read
  · obtain ⟨rfl, rfl⟩ := pure_eq_ok_iff.mp read
    exact ⟨rfl, by simp⟩
  · obtain ⟨type, _, good, answer, rfl⟩ := (classType_accepts referenceType_accepts).of_bind read
    obtain ⟨rfl, rfl⟩ := pure_eq_ok_iff.mp answer
    exact ⟨rfl, by simpa using good⟩

/-- The interfaces go on to the end of the text. -/
theorem interface_rest {text rest : List Char} (read : interface text = .ok (none, rest)) :
    rest = [] := by
  cases text with
  | nil =>
    cases read
    rfl
  | cons c more =>
    rw [interface, peek_bind] at read
    obtain ⟨_, _, _, answer⟩ := bind_eq_ok_iff.mp read
    cases answer

theorem parameter_accepts : parameter.Accepts (itemText TypeSignature.render [')'])
    fun found => ∀ type ∈ found, type.WellFormed ∧ type.Fits maxNesting := by
  intro text found rest read
  obtain ⟨parenthesis, _, after, rfl⟩ := eat_bind_eq_ok read
  cases parenthesis with
  | true =>
    obtain ⟨rfl, rfl⟩ := pure_eq_ok_iff.mp after
    exact ⟨rfl, by simp⟩
  | false =>
    obtain ⟨type, _, good, answer, rfl⟩ :=
      (typeSignature_accepts referenceType_accepts).of_bind after
    obtain ⟨rfl, rfl⟩ := pure_eq_ok_iff.mp answer
    exact ⟨rfl, by simpa using good⟩

theorem thrown_accepts : thrown.Accepts (itemText (fun type => '^' :: type.render) [])
    fun found => ∀ type ∈ found,
      (type.WellFormed ∧ type.isArray = false) ∧ type.Fits (maxNesting + 1) := by
  intro text found rest read
  obtain ⟨circumflex, _, after, rfl⟩ := eat_bind_eq_ok read
  cases circumflex with
  | false =>
    obtain ⟨rfl, rfl⟩ := pure_eq_ok_iff.mp after
    exact ⟨rfl, by simp⟩
  | true =>
    simp only [if_true, peek_bind] at after
    generalize List.head? _ = next at after
    split at after
    · obtain ⟨type, _, ⟨name, isVariable, isIdentifier⟩, answer, rfl⟩ :=
        typeVariable_accepts.of_bind after
      obtain ⟨rfl, rfl⟩ := pure_eq_ok_iff.mp answer
      refine ⟨rfl, ?_⟩
      rintro type ⟨⟩
      rw [isVariable]
      exact ⟨⟨isIdentifier, rfl⟩, ReferenceType.fits_typeVariable name⟩
    · obtain ⟨type, _, good, answer, rfl⟩ := (classType_accepts referenceType_accepts).of_bind after
      obtain ⟨rfl, rfl⟩ := pure_eq_ok_iff.mp answer
      refine ⟨by simp [itemText, ReferenceType.render, ClassType.render], ?_⟩
      rintro type ⟨⟩
      exact ⟨⟨good.1, rfl⟩, ReferenceType.fits_classType_iff.mpr good.2⟩

theorem classSignature_accepts : classSignature.Accepts ClassSignature.render
    fun signature => signature.WellFormed ∧ signature.Fits := by
  intro text signature rest read
  obtain ⟨parameters, _, parametersGood, declared, rfl⟩ := typeParameters_accepts.of_bind read
  obtain ⟨superclass, _, superclassGood, extended, rfl⟩ :=
    (classType_accepts referenceType_accepts).of_bind declared
  obtain ⟨interfaces, _, interfacesGood, answer, rfl⟩ :=
    (collect_accepts _ interface_accepts).of_bind extended
  obtain ⟨rfl, rfl⟩ := pure_eq_ok_iff.mp answer
  refine ⟨by simp [ClassSignature.render], ⟨?_, superclassGood.1, ?_⟩, ⟨?_, superclassGood.2, ?_⟩⟩
  · exact fun parameter member => (parametersGood parameter member).1
  · exact fun type member => (interfacesGood type member).1
  · exact fun parameter member => (parametersGood parameter member).2
  · exact fun type member => (interfacesGood type member).2

theorem classSignature_rest {text rest : List Char} {signature : ClassSignature}
    (read : classSignature text = .ok (signature, rest)) : rest = [] := by
  simp only [classSignature, bind_eq_ok_iff] at read
  obtain ⟨parameters, _, _, superclass, _, _, interfaces, _, collected, answer⟩ := read
  obtain ⟨-, rfl⟩ := pure_eq_ok_iff.mp answer
  exact collect_rest (· = []) (fun _ _ => interface_rest) collected

/-- The return type of a method, or `none` for a method that returns nothing. -/
def returnType : Parser (Option TypeSignature) := do
  if ← eat 'V' then return none
  some <$> typeSignature referenceType

theorem methodSignature_eq : methodSignature = do
    let declared ← typeParameters
    expect '(' .openingParenthesis
    let parameters ← collect .endOfSignature parameter
    let returned ← returnType
    let throws ← collect .endOfSignature thrown
    finish .trailingInput
    return ⟨declared, parameters, returned, throws⟩ := by
  simp only [methodSignature, returnType, bind_assoc]
  congr! with declared _ parameters returnsNothing
  cases returnsNothing <;> simp

theorem returnType_accepts :
    returnType.Accepts (fun found => found.elim ['V'] TypeSignature.render)
      fun found => ∀ type ∈ found, type.WellFormed ∧ type.Fits maxNesting := by
  intro text found rest read
  obtain ⟨returnsNothing, _, after, rfl⟩ := eat_bind_eq_ok read
  cases returnsNothing with
  | true =>
    obtain ⟨rfl, rfl⟩ := pure_eq_ok_iff.mp after
    exact ⟨rfl, by simp⟩
  | false =>
    obtain ⟨type, given, rfl⟩ := map_eq_ok_iff.mp after
    obtain ⟨rfl, good⟩ := typeSignature_accepts referenceType_accepts given
    exact ⟨rfl, by simpa using good⟩

theorem methodSignature_accepts : methodSignature.Accepts MethodSignature.render
    fun signature => signature.WellFormed ∧ signature.Fits := by
  intro text signature rest read
  rw [methodSignature_eq] at read
  obtain ⟨declared, _, declaredGood, opened, rfl⟩ := typeParameters_accepts.of_bind read
  obtain ⟨_, listed, rfl⟩ := expect_bind_eq_ok opened
  obtain ⟨parameters, _, parametersGood, closed, rfl⟩ :=
    (collect_accepts _ parameter_accepts).of_bind listed
  obtain ⟨returned, _, returnedGood, after, rfl⟩ := returnType_accepts.of_bind closed
  obtain ⟨throws, _, throwsGood, finished, rfl⟩ :=
    (collect_accepts _ thrown_accepts).of_bind after
  obtain ⟨_, _, atEnd, answer⟩ := bind_eq_ok_iff.mp finished
  obtain ⟨rfl, rfl⟩ := finish_eq_ok atEnd
  obtain ⟨rfl, rfl⟩ := pure_eq_ok_iff.mp answer
  refine ⟨by simp [MethodSignature.render], ⟨?_, ?_, ?_, ?_⟩, ⟨?_, ?_, ?_, ?_⟩⟩
  · exact fun entry member => (declaredGood entry member).1
  · exact fun type member => (parametersGood type member).1
  · exact fun type member => (returnedGood type member).1
  · exact fun type member => (throwsGood type member).1
  · exact fun entry member => (declaredGood entry member).2
  · exact fun type member => (parametersGood type member).2
  · exact fun type member => (returnedGood type member).2
  · exact fun type member => (throwsGood type member).2

theorem methodSignature_rest {text rest : List Char} {signature : MethodSignature}
    (read : methodSignature text = .ok (signature, rest)) : rest = [] := by
  simp only [methodSignature_eq, bind_eq_ok_iff] at read
  obtain ⟨_, _, _, _, _, _, _, _, _, _, _, _, _, _, _, _, _, atEnd, answer⟩ := read
  obtain ⟨-, rfl⟩ := pure_eq_ok_iff.mp answer
  exact (finish_eq_ok atEnd).2

theorem fieldSignature_accepts : fieldSignature.Accepts ReferenceType.render
    fun type => type.WellFormed ∧ type.Fits maxNesting := by
  intro text type rest read
  obtain ⟨type, _, good, finished, rfl⟩ := referenceType_accepts.of_bind read
  obtain ⟨_, _, atEnd, answer⟩ := bind_eq_ok_iff.mp finished
  obtain ⟨rfl, rfl⟩ := finish_eq_ok atEnd
  obtain ⟨rfl, rfl⟩ := pure_eq_ok_iff.mp answer
  exact ⟨rfl, good⟩

theorem fieldSignature_rest {text rest : List Char} {type : ReferenceType}
    (read : fieldSignature text = .ok (type, rest)) : rest = [] := by
  simp only [fieldSignature, bind_eq_ok_iff] at read
  obtain ⟨_, _, _, _, _, atEnd, answer⟩ := read
  obtain ⟨-, rfl⟩ := pure_eq_ok_iff.mp answer
  exact (finish_eq_ok atEnd).2

end JvmGenerics.Signature
