import JvmGenerics.Proofs.Signature.Readback

/-!
# Signatures and their texts

An accepted text is given back by the signature that was read from it. The other way round,
the text of a well-formed signature is read back if its types keep within the limits. For
reference types that is all there is to say. For the type parameters of a class or a method
there is one more condition: a parameter without bounds must not stand before one whose
name could start a bound.
-/

namespace JvmGenerics.Signature

open TextParser

section Whole

variable {α : Type} {parser : Parser α} {value : α} {signature : String}

theorem exists_of_run_eq_ok (read : run parser signature = .ok value) :
    ∃ rest, parser signature.toList = .ok (value, rest) := by
  rw [run, parse] at read
  cases start : parser signature.toList with
  | error stopped =>
    rw [start] at read
    cases read
  | ok answer =>
    rw [start] at read
    cases read
    exact ⟨answer.2, rfl⟩

/-- What a parser says of the texts that it accepts holds of whole signatures. -/
theorem run_accepts {render : α → List Char} {good : α → Prop}
    (accepts : parser.Accepts render good)
    (ends : ∀ {text rest}, parser text = .ok (value, rest) → rest = [])
    (read : run parser signature = .ok value) :
    String.ofList (render value) = signature ∧ good value := by
  obtain ⟨rest, read⟩ := exists_of_run_eq_ok read
  obtain rfl := ends read
  obtain ⟨text, good⟩ := accepts read
  rw [List.append_nil] at text
  exact ⟨by rw [← text, String.ofList_toList], good⟩

/-- What a parser makes of a text it makes of the signature with that text. -/
theorem run_of_reads {text : List Char} {fits : Prop} (reads : parser.Reads text fits value []) :
    (fits → run parser (String.ofList text) = .ok value) ∧
      (¬fits → ∃ error, run parser (String.ofList text) = .error error ∧
        error.signature = String.ofList text) := by
  constructor
  · intro fit
    rw [run, parse, String.toList_ofList, reads.1 fit]
    rfl
  · intro unfit
    obtain ⟨stopped, failed⟩ := reads.2 unfit
    rw [run, parse, String.toList_ofList, failed]
    exact ⟨_, rfl, rfl⟩

end Whole

theorem exists_eq_ok {ε α : Type} {result : Except ε α} (isOk : result.isOk = true) :
    ∃ value, result = .ok value := by
  cases result with
  | error stopped => cases isOk
  | ok value => exact ⟨value, rfl⟩

theorem eq_error_of_map {ε α β : Type} {result : Except ε α} {transform : α → β} {error : ε}
    (mapped : result.map transform = .error error) : result = .error error := by
  cases result with
  | error stopped =>
    cases mapped
    rfl
  | ok value => cases mapped

/-- Every accepted text is the text of the signature that was read from it, character by
character, and that signature is well formed: its names are not empty and hold no delimiter,
an array has a dimension at least and no array for its component, and only class types and
type variables are thrown. No array in it has more than 255 dimensions, and a class type is
never without a class. -/
theorem accepted_round_trip (text : String) :
    (∀ signature, parseClass text = .ok signature →
      String.ofList signature.render = text ∧ signature.WellFormed ∧
        ∀ type ∈ signature.references, type.mostDimensions ≤ 255) ∧
    (∀ signature, parseMethod text = .ok signature →
      String.ofList signature.render = text ∧ signature.WellFormed ∧
        ∀ type ∈ signature.references, type.mostDimensions ≤ 255) ∧
    (∀ type, parseField text = .ok type →
      String.ofList type.render = text ∧ type.WellFormed ∧ type.mostDimensions ≤ 255) ∧
    ∀ type : ClassType, type.segments ≠ [] := by
  refine ⟨fun signature read => ?_, fun signature read => ?_, fun type read => ?_,
    ClassType.segments_ne_nil⟩
  · obtain ⟨same, wellFormed, fits⟩ := run_accepts classSignature_accepts classSignature_rest read
    exact ⟨same, wellFormed, fits.mostDimensions_le⟩
  · obtain ⟨same, wellFormed, fits⟩ := run_accepts methodSignature_accepts methodSignature_rest read
    exact ⟨same, wellFormed, fits.mostDimensions_le⟩
  · obtain ⟨same, wellFormed, fits⟩ := run_accepts fieldSignature_accepts fieldSignature_rest read
    exact ⟨same, wellFormed, fits.2⟩

/-- A class with two type parameters, a method that takes an array and throws a type variable,
and a field of a member class with type arguments at every level. -/
theorem accepted_round_trip_texts :
    (∃ signature, parseClass "<K::Lp/Order<TK;>;V:>Lp/Base;" = .ok signature ∧
      String.ofList signature.render = "<K::Lp/Order<TK;>;V:>Lp/Base;" ∧
        signature.WellFormed) ∧
    (∃ signature, parseMethod "<E:Ljava/lang/Exception;>([[I)V^TE;" = .ok signature ∧
      String.ofList signature.render = "<E:Ljava/lang/Exception;>([[I)V^TE;" ∧
        signature.WellFormed ∧ ∀ type ∈ signature.references, type.mostDimensions ≤ 255) ∧
    ∃ type, parseField "Lp/Outer<[TT;>.Inner<*-TU;>;" = .ok type ∧
      String.ofList type.render = "Lp/Outer<[TT;>.Inner<*-TU;>;" ∧ type.WellFormed := by
  obtain ⟨signature, classRead⟩ := exists_eq_ok
    (show (parseClass "<K::Lp/Order<TK;>;V:>Lp/Base;").isOk = true by decide +kernel)
  obtain ⟨method, methodRead⟩ := exists_eq_ok
    (show (parseMethod "<E:Ljava/lang/Exception;>([[I)V^TE;").isOk = true by decide +kernel)
  obtain ⟨field, fieldRead⟩ := exists_eq_ok
    (show (parseField "Lp/Outer<[TT;>.Inner<*-TU;>;").isOk = true by decide +kernel)
  obtain ⟨classText, classWellFormed, -⟩ := (accepted_round_trip _).1 signature classRead
  obtain ⟨methodText, methodGood⟩ := (accepted_round_trip _).2.1 method methodRead
  obtain ⟨fieldText, fieldWellFormed, -⟩ := (accepted_round_trip _).2.2.1 field fieldRead
  exact ⟨⟨signature, classRead, classText, classWellFormed⟩,
    ⟨method, methodRead, methodText, methodGood⟩, field, fieldRead, fieldText, fieldWellFormed⟩

/-- The text of a well-formed reference type is read back if the type nests at most 256
levels deep and no array in it has more than 255 dimensions, and it is refused otherwise. So
the texts of such types are the only ones that are accepted. -/
theorem field_signature_exact :
    (∀ type : ReferenceType, type.WellFormed →
      (type.nesting ≤ 256 ∧ type.mostDimensions ≤ 255 →
        parseField (String.ofList type.render) = .ok type) ∧
      (¬(type.nesting ≤ 256 ∧ type.mostDimensions ≤ 255) →
        ∃ error, parseField (String.ofList type.render) = .error error ∧
          error.signature = String.ofList type.render)) ∧
    ∀ text : String, (∃ type, parseField text = .ok type) ↔
      ∃ type : ReferenceType, (type.WellFormed ∧ type.nesting ≤ 256 ∧ type.mostDimensions ≤ 255) ∧
        String.ofList type.render = text := by
  have reads (type : ReferenceType) (wellFormed : type.WellFormed) :=
    run_of_reads (fieldSignature_reads wellFormed)
  refine ⟨reads, fun text => ⟨?_, ?_⟩⟩
  · rintro ⟨type, read⟩
    obtain ⟨same, good⟩ := run_accepts fieldSignature_accepts fieldSignature_rest read
    exact ⟨type, good, same⟩
  · rintro ⟨type, ⟨wellFormed, fits⟩, rfl⟩
    exact ⟨type, (reads type wellFormed).1 fits⟩

/-- A list of an unknown subtype of a variable is read back, and an array with one dimension
too many is refused. -/
theorem field_signature_exact_limits :
    let list : ReferenceType := .classType
      (.topLevel ["java", "util"] "List" [.bounded .covariant (.typeVariable "E")])
    let array : ReferenceType := .array 256 (.base .int)
    (list.WellFormed ∧ list.nesting = 2 ∧ parseField "Ljava/util/List<+TE;>;" = .ok list) ∧
      array.WellFormed ∧ array.mostDimensions = 256 ∧
        ∃ error, parseField (String.ofList array.render) = .error error := by
  intro list array
  have listWellFormed : list.WellFormed :=
    ⟨by decide, by decide, show IsIdentifier "E" by decide, trivial⟩
  have arrayWellFormed : array.WellFormed := ⟨by decide, rfl, trivial⟩
  have listRead := (field_signature_exact.1 list listWellFormed).1 (by decide)
  obtain ⟨error, refused, -⟩ := (field_signature_exact.1 array arrayWellFormed).2 (by decide)
  have text : String.ofList list.render = "Ljava/util/List<+TE;>;" := by decide +kernel
  rw [text] at listRead
  exact ⟨⟨listWellFormed, rfl, listRead⟩, arrayWellFormed, rfl, error, refused⟩

/-- Type parameters that declare no bounds. -/
def unboundedParameters (names : List String) : List TypeParameter :=
  names.map fun name => ⟨name, none, []⟩

theorem unboundedParameters_wellFormed {names : List String}
    (areIdentifiers : ∀ name ∈ names, IsIdentifier name) :
    ∀ parameter ∈ unboundedParameters names, parameter.WellFormed :=
  List.forall_mem_map.mpr fun name member =>
    ⟨areIdentifiers name member, fun _ isBound => absurd isBound List.not_mem_nil⟩

/-- The text of a well-formed class or method signature whose types keep within the limits
is read back if no type parameter without bounds stands before one whose name could start a
bound, and it is refused if one does. -/
theorem declared_signature_exact (signature : ClassSignature) (method : MethodSignature) :
    (signature.WellFormed →
      (∀ type ∈ signature.references, type.nesting ≤ 256 ∧ type.mostDimensions ≤ 255) →
      (signature.typeParameters.IsChain TypeParameter.Separates →
        parseClass (String.ofList signature.render) = .ok signature) ∧
      (¬signature.typeParameters.IsChain TypeParameter.Separates →
        ∃ error, parseClass (String.ofList signature.render) = .error error)) ∧
    (method.WellFormed →
      (∀ type ∈ method.references, type.nesting ≤ 256 ∧ type.mostDimensions ≤ 255) →
      (method.typeParameters.IsChain TypeParameter.Separates →
        parseMethod (String.ofList method.render) = .ok method) ∧
      (¬method.typeParameters.IsChain TypeParameter.Separates →
        ∃ error, parseMethod (String.ofList method.render) = .error error)) := by
  refine ⟨fun wellFormed limits => ?_, fun wellFormed limits => ?_⟩
  · have fits := ClassSignature.fits_of_references limits
    obtain ⟨accepted, refused⟩ := run_of_reads (classSignature_reads wellFormed)
    refine ⟨fun separate => accepted ⟨fits, separate⟩, fun clash => ?_⟩
    obtain ⟨error, failed, -⟩ := refused fun both => clash both.2
    exact ⟨error, failed⟩
  · have fits := MethodSignature.fits_of_references limits
    obtain ⟨accepted, refused⟩ := run_of_reads (methodSignature_reads wellFormed)
    refine ⟨fun separate => accepted ⟨fits, separate⟩, fun clash => ?_⟩
    obtain ⟨error, failed, -⟩ := refused fun both => clash both.2
    exact ⟨error, failed⟩

/-- The name `U` is told from a bound, and the name `T` is not. -/
theorem declared_signature_exact_unbounded :
    let object : ClassType := .topLevel ["java", "lang"] "Object" []
    let separate : ClassSignature := ⟨unboundedParameters ["T", "U"], object, []⟩
    let clashing : MethodSignature := ⟨unboundedParameters ["A", "T"], [], none, []⟩
    (separate.WellFormed ∧ parseClass "<T:U:>Ljava/lang/Object;" = .ok separate) ∧
      clashing.WellFormed ∧ ∃ error, parseMethod "<A:T:>()V" = .error error := by
  intro object separate clashing
  have separateWellFormed : separate.WellFormed :=
    ⟨unboundedParameters_wellFormed (by decide), ⟨by decide, by decide, trivial⟩,
      by simp [separate]⟩
  have clashingWellFormed : clashing.WellFormed :=
    ⟨unboundedParameters_wellFormed (by decide), by simp [clashing], by simp [clashing],
      by simp [clashing]⟩
  obtain ⟨ofSeparate, ofClashing⟩ := declared_signature_exact separate clashing
  have read := (ofSeparate separateWellFormed (by decide)).1 (by decide)
  obtain ⟨error, refused⟩ := (ofClashing clashingWellFormed (by decide)).2 (by decide)
  have readText : String.ofList separate.render = "<T:U:>Ljava/lang/Object;" := by decide +kernel
  have refusedText : String.ofList clashing.render = "<A:T:>()V" := by decide +kernel
  rw [readText] at read
  rw [refusedText] at refused
  exact ⟨⟨separateWellFormed, read⟩, clashingWellFormed, error, refused⟩

/-- A well-formed class signature within all limits that is refused: the second of its two
parameters without bounds is called `T`, and the parser looks for the type variable that
would be the bound of the first. -/
theorem unbounded_before_T_refused :
    let signature : ClassSignature :=
      ⟨unboundedParameters ["A", "T"], .topLevel ["java", "lang"] "Object" [], []⟩
    signature.WellFormed ∧
      (∀ type ∈ signature.references, type.nesting ≤ 256 ∧ type.mostDimensions ≤ 255) ∧
        String.ofList signature.render = "<A:T:>Ljava/lang/Object;" ∧
          parseClass "<A:T:>Ljava/lang/Object;" =
            .error ⟨"<A:T:>Ljava/lang/Object;", 4, .identifier⟩ := by
  intro signature
  have wellFormed : signature.WellFormed :=
    ⟨unboundedParameters_wellFormed (by decide), ⟨by decide, by decide, trivial⟩,
      by simp [signature]⟩
  have refused : (parseClass "<A:T:>Ljava/lang/Object;").map ClassSignature.render =
      .error ⟨"<A:T:>Ljava/lang/Object;", 4, .identifier⟩ := by decide +kernel
  exact ⟨wellFormed, by decide, by decide +kernel, eq_error_of_map refused⟩

end JvmGenerics.Signature
