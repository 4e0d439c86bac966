import JvmGenerics.Proofs.Signature.RoundTrip

/-!
# How deep types nest where they stand

A signature may nest its reference types 256 levels deep, and the text of a type within that
limit is accepted by itself. For a bound, a parameter type or a return type of an accepted
signature the limit holds. A superclass, an interface and a thrown class are read without
being counted as a level themselves, so there a class type may nest one level deeper than the
limit, and the text of such a type is refused when it stands alone.
-/

namespace JvmGenerics.Signature

namespace ReferenceType

/-- The type nests within the limit, and its own text is accepted and gives it back. -/
structure StandsAlone (type : ReferenceType) : Prop where
  nesting_le : type.nesting ≤ 256
  read_again : parseField (String.ofList type.render) = .ok type

/-- The type nests one level deeper than the limit, and its own text is refused. -/
structure ExceedsByOne (type : ReferenceType) : Prop where
  nesting_eq : type.nesting = 257
  refused : ∃ error, parseField (String.ofList type.render) = .error error

variable {type : ReferenceType}

theorem standsAlone_of_fits (wellFormed : type.WellFormed) (fits : type.Fits maxNesting) :
    type.StandsAlone where
  nesting_le := fits.1
  read_again := (run_of_reads (fieldSignature_reads wellFormed)).1 fits

/-- With one level more than the limit, a type either does without it or needs all levels. -/
theorem standsAlone_or_exceedsByOne (wellFormed : type.WellFormed)
    (fits : type.Fits (maxNesting + 1)) : type.StandsAlone ∨ type.ExceedsByOne := by
  obtain ⟨nesting, dimensions⟩ := fits
  by_cases within : type.nesting ≤ maxNesting
  · exact Or.inl (standsAlone_of_fits wellFormed ⟨within, dimensions⟩)
  · have exact : type.nesting = maxNesting + 1 := by omega
    have unfit : ¬type.Fits maxNesting := fun fits => within fits.1
    obtain ⟨error, refused, -⟩ := (run_of_reads (fieldSignature_reads wellFormed)).2 unfit
    exact Or.inr ⟨exact, error, refused⟩

end ReferenceType

theorem TypeParameter.standsAlone_of_fits {parameter : TypeParameter}
    (wellFormed : parameter.WellFormed) (fits : parameter.Fits) :
    ∀ bound ∈ parameter.bounds, bound.StandsAlone := by
  intro bound member
  exact ReferenceType.standsAlone_of_fits (wellFormed.2 bound member) (fits bound member)

theorem TypeSignature.standsAlone_of_fits {type : TypeSignature} (wellFormed : type.WellFormed)
    (fits : type.Fits maxNesting) : ∀ inner ∈ type.reference?, inner.StandsAlone := by
  intro inner given
  apply ReferenceType.standsAlone_of_fits
  · exact wellFormed_iff.mp wellFormed inner given
  · exact fits_iff.mp fits inner given

/-- A class type that stands where it is no level itself. -/
theorem ClassType.standsAlone_or_exceedsByOne {type : ClassType} (wellFormed : type.WellFormed)
    (fits : type.Fits maxNesting) :
    (ReferenceType.classType type).StandsAlone ∨ (ReferenceType.classType type).ExceedsByOne := by
  apply ReferenceType.standsAlone_or_exceedsByOne
  · exact wellFormed
  · exact ReferenceType.fits_classType_iff.mpr fits

/-- In an accepted signature every bound, every parameter type and the return type nests at
most 256 levels deep, and its own text is accepted and gives it back. The same holds of a
superclass, an interface and a thrown type, unless it nests exactly 257 levels deep: that is
accepted in these places, and its own text is refused. -/
theorem standing_types_nesting (text : String) :
    (∀ signature, parseClass text = .ok signature →
      (∀ parameter ∈ signature.typeParameters, ∀ bound ∈ parameter.bounds, bound.StandsAlone) ∧
      ∀ type ∈ signature.superclass :: signature.interfaces,
        (ReferenceType.classType type).StandsAlone ∨
          (ReferenceType.classType type).ExceedsByOne) ∧
    ∀ signature, parseMethod text = .ok signature →
      (∀ parameter ∈ signature.typeParameters, ∀ bound ∈ parameter.bounds, bound.StandsAlone) ∧
      (∀ type ∈ signature.parameters ++ signature.returnType.toList,
        ∀ inner ∈ type.reference?, inner.StandsAlone) ∧
      ∀ type ∈ signature.throws, type.StandsAlone ∨ type.ExceedsByOne := by
  refine ⟨fun signature read => ?_, fun signature read => ?_⟩
  · obtain ⟨-, wellFormed, fits⟩ := run_accepts classSignature_accepts classSignature_rest read
    refine ⟨fun parameter member => ?_, List.forall_mem_cons.mpr ⟨?_, fun type member => ?_⟩⟩
    · exact TypeParameter.standsAlone_of_fits (wellFormed.typeParameters parameter member)
        (fits.typeParameters parameter member)
    · exact ClassType.standsAlone_or_exceedsByOne wellFormed.superclass fits.superclass
    · exact ClassType.standsAlone_or_exceedsByOne (wellFormed.interfaces type member)
        (fits.interfaces type member)
  · obtain ⟨-, wellFormed, fits⟩ := run_accepts methodSignature_accepts methodSignature_rest read
    refine ⟨fun parameter member => ?_, List.forall_mem_append.mpr ⟨fun type member => ?_,
      fun type member => ?_⟩, fun type member => ?_⟩
    · exact TypeParameter.standsAlone_of_fits (wellFormed.typeParameters parameter member)
        (fits.typeParameters parameter member)
    · exact TypeSignature.standsAlone_of_fits (wellFormed.parameters type member)
        (fits.parameters type member)
    · have returned := Option.mem_toList.mp member
      exact TypeSignature.standsAlone_of_fits (wellFormed.returnType type returned)
        (fits.returnType type returned)
    · exact ReferenceType.standsAlone_or_exceedsByOne (wellFormed.throws type member).1
        (fits.throws type member)

/-- A bound and an interface with type arguments of their own, and a thrown type variable. -/
theorem standing_types_nesting_texts :
    (∃ signature, parseClass "<T:Lp/A<TT;>;>Lp/B;Lp/C<[TT;>;" = .ok signature ∧
      (∀ parameter ∈ signature.typeParameters, ∀ bound ∈ parameter.bounds, bound.StandsAlone) ∧
        ∀ type ∈ signature.superclass :: signature.interfaces,
          (ReferenceType.classType type).StandsAlone ∨
            (ReferenceType.classType type).ExceedsByOne) ∧
    ∃ signature, parseMethod "(ITT;)Lp/A<*>;^TE;" = .ok signature ∧
      (∀ type ∈ signature.parameters ++ signature.returnType.toList,
        ∀ inner ∈ type.reference?, inner.StandsAlone) ∧
      ∀ type ∈ signature.throws, type.StandsAlone ∨ type.ExceedsByOne := by
  obtain ⟨signature, classRead⟩ := exists_eq_ok
    (show (parseClass "<T:Lp/A<TT;>;>Lp/B;Lp/C<[TT;>;").isOk = true by decide +kernel)
  obtain ⟨method, methodRead⟩ := exists_eq_ok
    (show (parseMethod "(ITT;)Lp/A<*>;^TE;").isOk = true by decide +kernel)
  have ofClass := (standing_types_nesting _).1 signature classRead
  have ofMethod := (standing_types_nesting _).2 method methodRead
  exact ⟨⟨signature, classRead, ofClass⟩, method, methodRead, ofMethod.2⟩

/-- A class type with a given number of levels below it, each the only type argument of the
one above. -/
def ClassType.tower : Nat → ClassType
  | 0 => .topLevel [] "b" []
  | levels + 1 => .topLevel [] "a" [.bounded .invariant (.classType (tower levels))]

theorem ClassType.nesting_tower (levels : Nat) : (tower levels).nesting = levels := by
  induction levels with
  | zero => rfl
  | succ levels ih =>
    simp [tower, ClassType.nesting, TypeArgument.nestingEach, ReferenceType.nesting, ih]

theorem ClassType.mostDimensions_tower (levels : Nat) : (tower levels).mostDimensions = 0 := by
  induction levels with
  | zero => rfl
  | succ levels ih =>
    simp [tower, ClassType.mostDimensions, TypeArgument.mostDimensionsEach,
      ReferenceType.mostDimensions, ih]

theorem ClassType.tower_wellFormed (levels : Nat) : (tower levels).WellFormed := by
  induction levels with
  | zero => exact ⟨by simp, by decide, trivial⟩
  | succ levels ih => exact ⟨by simp, by decide, ih, trivial⟩

theorem ClassType.tower_fits {levels : Nat} (few : levels ≤ maxNesting) :
    (tower levels).Fits maxNesting :=
  ⟨by rwa [nesting_tower], by simp [mostDimensions_tower]⟩

/-- The text of such a class type. -/
def towerText (levels : Nat) : List Char :=
  (List.replicate levels ['L', 'a', '<']).flatten ++
    ('L' :: 'b' :: ';' :: (List.replicate levels ['>', ';']).flatten)

theorem ClassType.render_tower (levels : Nat) : (tower levels).render = towerText levels := by
  induction levels with
  | zero => rfl
  | succ levels ih =>
    calc (tower (levels + 1)).render
        = ['L', 'a', '<'] ++ ((tower levels).render ++ ['>', ';']) := by
          simp [tower, ClassType.render, ClassType.renderOpen, bracketed, Variance.render,
            TypeArgument.renderEach, ReferenceType.render]
      _ = towerText (levels + 1) := by
          rw [ih, towerText, towerText, List.replicate_succ, List.flatten_cons,
            List.replicate_succ', List.flatten_concat]
          simp

/-- Without its arguments counted, the tallest tower that a signature can hold is one level too
tall to stand alone. -/
theorem ClassType.tower_exceedsByOne :
    (ReferenceType.classType (tower maxNesting)).ExceedsByOne := by
  have within := tower_fits (Nat.le_refl maxNesting)
  have either := standsAlone_or_exceedsByOne (tower_wellFormed maxNesting) within
  apply either.resolve_left
  intro alone
  have limit := alone.nesting_le
  rw [ReferenceType.nesting, nesting_tower, maxNesting] at limit
  omega

/-- A class signature without parameters and interfaces has the text of its superclass. -/
theorem ClassSignature.render_of_alone (superclass : ClassType) :
    (ClassSignature.mk [] superclass []).render = superclass.render := by
  simp [render, TypeParameter.renderList, bracketed]

/-- A class signature that is accepted although its superclass nests 257 levels deep. The text
of that superclass, which is the whole text, is refused where it stands alone. -/
theorem superclass_exceeds_limit :
    let text := String.ofList (towerText 256)
    ∃ signature, parseClass text = .ok signature ∧
      String.ofList signature.superclass.render = text ∧
        (ReferenceType.classType signature.superclass).ExceedsByOne := by
  intro text
  let signature : ClassSignature := ⟨[], .tower maxNesting, []⟩
  have wellFormed : signature.WellFormed :=
    ⟨by simp [signature], ClassType.tower_wellFormed maxNesting, by simp [signature]⟩
  have fits : signature.Fits :=
    ⟨by simp [signature], ClassType.tower_fits (Nat.le_refl maxNesting), by simp [signature]⟩
  have superclassText : String.ofList signature.superclass.render = text := by
    rw [ClassType.render_tower, maxNesting]
  have signatureText : String.ofList signature.render = text := by
    rw [ClassSignature.render_of_alone, superclassText]
  have read := (run_of_reads (classSignature_reads wellFormed)).1 ⟨fits, List.IsChain.nil⟩
  rw [signatureText] at read
  exact ⟨signature, read, superclassText, ClassType.tower_exceedsByOne⟩

end JvmGenerics.Signature
