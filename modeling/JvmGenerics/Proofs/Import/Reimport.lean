import JvmGenerics.Proofs.Import.Copies
import JvmGenerics.Proofs.Import.PoolResolution

/-!
# Importing a result again

The result of an import needs nothing but itself: its classes, imported as one batch in the
same order, yield the same types and the same scopes under the same numbers. This is so
although some of them were loaded in the middle of the resolution of others. Only where a
class was loaded from can no longer be told.
-/

namespace JvmGenerics

namespace Imported.Outcome

variable {sources others : ImportSources} {batch : List ClassInfo} {first second : Imported}
variable {state later : ImportState}

/-- A class of the table is one of the batch for those who see imported classes only. -/
theorem pooled_origin (outcome : first.Outcome sources batch state) {declared : DeclaredClass}
    (member : declared ∈ state.classes) : declared.origin.pooled = .imported := by
  have means := outcome.sound.known declared member
  rcases ImportSources.origin_of_classNamed? means with isBatch | isClasspath
  · rw [isBatch]
    rfl
  · rw [isClasspath]
    rfl

variable (outcome : first.Outcome sources batch state)
variable (again : second.Outcome others (first.classes.map ImportedClass.info) later)
variable (forbidden : others.fallback = false)
include outcome again forbidden

/-- No class of a result is a repetition, so all of them are declared again. -/
theorem infos_again :
    later.classes.map DeclaredClass.info = state.classes.map DeclaredClass.info := by
  have ⟨_, infos⟩ := ImportState.ofBatch_spec others (first.classes.map ImportedClass.info)
  have distinct := outcome.sound.distinct
  rw [← outcome.names_eq] at distinct
  rw [again.classes_eq_of_forbidden forbidden, infos, ← outcome.infos_eq]
  refine ClassInfo.firsts_eq_self ?_ fun _ _ => List.not_mem_nil
  rw [List.map_map]
  exact distinct

/-- The classes are declared again under the same numbers. -/
theorem copies_again :
    List.Forall₂ (DeclaredClass.Copies Origin.pooled) state.classes later.classes := by
  have infos := outcome.infos_again again forbidden
  have ⟨gathered, _⟩ := ImportState.ofBatch_spec others (first.classes.map ImportedClass.info)
  have origins := gathered.origins
  rw [← again.classes_eq_of_forbidden forbidden] at origins
  have same : List.Forall₂ (fun declared other : DeclaredClass => other.info = declared.info)
      state.classes later.classes :=
    (map_eq_map_iff_forall₂.mp infos).flip
  rw [outcome.sound.classes_eq, again.sound.classes_eq]
  refine ClassInfo.declareEach_copies (forall₂_map_iff.mpr ?_) 0
  refine forall₂_of_forall_mem same (fun declared member => outcome.pooled_origin member)
    origins
    fun declared other pooled origin info next => ?_
  rw [info, origin, ← pooled]
  exact declared.info.copies_declaredAt Origin.pooled declared.origin next

theorem classes_again :
    second.classes = first.classes.map (ImportedClass.mapOrigins Origin.pooled) := by
  have copied := outcome.copiedClasses again (outcome.copies_again again forbidden) rfl rfl
  have infos : second.classes.map ImportedClass.info = first.classes.map ImportedClass.info := by
    rw [outcome.infos_eq, again.infos_eq, outcome.infos_again again forbidden]
  have both := List.Forall₂.mp (fun _ _ info copied => And.intro info copied)
    (map_eq_map_iff_forall₂.mp infos).flip copied
  rw [← List.forall₂_eq_eq_eq, List.forall₂_map_right_iff]
  refine (forall₂_of_forall_mem both (fun published member => outcome.methods_eq member)
    (fun other member => again.methods_eq member)
    fun published other methods otherMethods same => ?_).flip
  obtain ⟨info, copied⟩ := same
  exact copied.eq_mapOrigins info (otherMethods.trans ((congrArg _ info).trans methods.symm))

end Imported.Outcome

/-- The result of an import stands for itself. If its classes are imported as one batch,
without any others, they come in the same order with the same types, and the store has the
same scopes under the same numbers, with the same owners, parameters and bounds. All that
changes is that classes which were loaded count as imported. -/
theorem reimport_classes (options : ImportOptions) (classpath other : Classpath)
    (batch : List ClassInfo) :
    let imported := importClasses options classpath batch
    let again := importClasses ⟨false⟩ other (imported.classes.map ImportedClass.info)
    again.classes = imported.classes.map (ImportedClass.mapOrigins Origin.pooled) ∧
      again.store = imported.store.mapOrigins Origin.pooled := by
  intro imported again
  obtain ⟨state, outcome⟩ := importClasses_outcome options classpath batch
  obtain ⟨later, otherOutcome⟩ := importClasses_outcome ⟨false⟩ other
    (imported.classes.map ImportedClass.info)
  constructor
  · exact outcome.classes_again otherOutcome rfl
  · exact outcome.store_eq_of_copies otherOutcome (outcome.copies_again otherOutcome rfl) rfl rfl

end JvmGenerics
