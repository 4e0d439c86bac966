import JvmGenerics.Proofs.Import.Renumbering

/-!
# The order of a batch

An import numbers the scopes as it declares them, and it meets the classes in an order
that follows from that of the batch. Neither of these shows in the result. As long as no
two classes of a batch share a name, another order yields the same classes with the same
types, if every scope is read as its owner.
-/

namespace JvmGenerics

/-- Results that differ in the numbers of the scopes and in orders only: they have the
same classes, the same diagnostics, and the same names were asked for. -/
structure Imported.Same (first second : Imported) : Prop where
  distinct : (first.classes.map ImportedClass.name).Nodup
  names : (first.classes.map ImportedClass.name).Perm (second.classes.map ImportedClass.name)
  classes : ∀ name, Option.Rel (first.SameClass second) (first.class? name) (second.class? name)
  diagnostics : first.diagnostics.Perm second.diagnostics
  requests : ∀ name, name ∈ first.requests ↔ name ∈ second.requests

namespace ImportSources

variable {sources : ImportSources} {batch other : List ClassInfo}

/-- What a name means does not depend on the order of the batch. -/
theorem classNamed?_perm (permuted : batch.Perm other)
    (distinct : (batch.map ClassInfo.name).Nodup) :
    sources.classNamed? batch = sources.classNamed? other := by
  have otherDistinct := (permuted.map ClassInfo.name).nodup_iff.mp distinct
  funext name
  have same : batch.find? (fun info => info.name == name) =
      other.find? fun info => info.name == name := by
    ext info
    rw [find?_eq_some_iff_of_nodup distinct, find?_eq_some_iff_of_nodup otherDistinct,
      permuted.mem_iff]
  rw [classNamed?, classNamed?, same]

theorem Needed.perm (permuted : batch.Perm other) (distinct : (batch.map ClassInfo.name).Nodup)
    {name : String} (needed : sources.Needed batch name) : sources.Needed other name := by
  induction needed with
  | batch member => exact .batch (permuted.mem_iff.mp member)
  | need _ means asks ih =>
    rw [classNamed?_perm permuted distinct] at means
    exact .need ih means asks

end ImportSources

namespace Imported.Outcome

variable {sources : ImportSources} {batch : List ClassInfo} {imported : Imported}
variable {state : ImportState}

theorem settled_of_needed (outcome : imported.Outcome sources batch state) {name : String}
    (needed : sources.Needed batch name) : state.Settled sources name := by
  induction needed with
  | batch member => exact Or.inl (outcome.sound.covered _ member)
  | @need name _ _ _ _ means asks ih =>
    rw [outcome.sound.classNamed?_eq ih, Option.map_eq_some_iff] at means
    obtain ⟨found, present, same⟩ := means
    obtain ⟨-, rfl⟩ := Prod.mk.inj same
    have related := outcome.class?_related name
    rw [present] at related
    obtain ⟨published, -, -, chain, resolved⟩ := exists_of_rel_some related
    exact resolved.settled _ asks

theorem class?_of_needed (outcome : imported.Outcome sources batch state) {name : String}
    (needed : sources.Needed batch name) :
    (state.class? name).map (fun found => (found.origin, found.info)) =
      sources.classNamed? batch name :=
  (outcome.sound.classNamed?_eq (outcome.settled_of_needed needed)).symm

theorem class?_of_not_needed (outcome : imported.Outcome sources batch state) {name : String}
    (useless : ¬ sources.Needed batch name) : state.class? name = none := by
  cases present : state.class? name with
  | none => rfl
  | some found =>
    obtain ⟨member, rfl⟩ := ImportState.mem_of_class? present
    exact absurd (outcome.justified.classes found member) useless

/-- A name was asked for exactly if it is needed, is not in the batch, and classes may be
loaded. -/
theorem mem_requests_iff (outcome : imported.Outcome sources batch state) {name : String} :
    name ∈ imported.requests ↔ sources.fallback = true ∧ sources.Needed batch name ∧
      ∀ info ∈ batch, info.name ≠ name := by
  rw [outcome.requests]
  constructor
  · intro asked
    obtain ⟨allowed, outside, -⟩ := outcome.sound.asked name asked
    exact ⟨allowed, outcome.justified.requests name asked, outside⟩
  · rintro ⟨allowed, needed, outside⟩
    rcases outcome.settled_of_needed needed with present | forbidden | asked
    · obtain ⟨found, present⟩ := Option.isSome_iff_exists.mp present
      obtain ⟨member, rfl⟩ := ImportState.mem_of_class? present
      have means := outcome.sound.known found member
      rcases ImportSources.origin_of_classNamed? means with batch | classpath
      · rw [batch] at means
        obtain ⟨inBatch, named⟩ := ImportSources.mem_of_classNamed? means
        exact absurd named (outside _ inBatch)
      · exact outcome.sound.loaded found member classpath
    · rw [allowed] at forbidden
      cases forbidden
    · exact asked

/-- If no class repeats the name of another one, the diagnostics are those of the classes. -/
theorem diagnostics_perm (outcome : imported.Outcome sources batch state)
    (distinct : (batch.map ClassInfo.name).Nodup) :
    imported.diagnostics.Perm
      ((state.classes.map DeclaredClass.info).flatMap ClassInfo.declarationDiagnostics ++
        (state.classes.map DeclaredClass.info).flatMap ClassInfo.resolutionDiagnostics) := by
  have diagnostics := outcome.sound.diagnostics
  rw [ClassInfo.repeatDiagnostics_eq_nil distinct fun _ _ => List.not_mem_nil,
    List.nil_append] at diagnostics
  rw [outcome.diagnostics, List.flatMap_map, List.flatMap_map]
  exact diagnostics

end Imported.Outcome

theorem ImportState.WellFormed.nodup_infos {state : ImportState} {reported : List Diagnostic}
    (wellFormed : state.WellFormed reported) :
    (state.classes.map DeclaredClass.info).Nodup := by
  have distinct := wellFormed.distinct
  rw [show DeclaredClass.name = ClassInfo.name ∘ DeclaredClass.info from rfl,
    ← List.map_map] at distinct
  exact distinct.of_map ClassInfo.name

namespace Imported.Outcome

section Pair

variable {sources : ImportSources} {batch other : List ClassInfo} {first second : Imported}
variable {state later : ImportState}
variable (outcome : first.Outcome sources batch state)
variable (otherOutcome : second.Outcome sources other later) (permuted : batch.Perm other)
variable (distinct : (batch.map ClassInfo.name).Nodup)
include outcome otherOutcome permuted distinct

theorem rel_class? (name : String) :
    Option.Rel (DeclaredClass.Corresponds state.store later.store) (state.class? name)
      (later.class? name) := by
  have otherDistinct := (permuted.map ClassInfo.name).nodup_iff.mp distinct
  by_cases needed : sources.Needed batch name
  · have means := outcome.class?_of_needed needed
    have otherMeans := otherOutcome.class?_of_needed (needed.perm permuted distinct)
    rw [← ImportSources.classNamed?_perm permuted distinct, ← means] at otherMeans
    cases present : state.class? name with
    | none =>
      rw [present, Option.map_none, Option.map_eq_none_iff] at otherMeans
      rw [otherMeans]
      exact .none
    | some declared =>
      rw [present, Option.map_some, Option.map_eq_some_iff] at otherMeans
      obtain ⟨otherDeclared, otherPresent, same⟩ := otherMeans
      obtain ⟨origin, info⟩ := Prod.mk.inj same
      rw [otherPresent]
      exact .some (outcome.sound.corresponds otherOutcome.sound.toWellFormed
        (ImportState.mem_of_class? present).1 (ImportState.mem_of_class? otherPresent).1
          origin.symm info.symm)
  · have useless : ¬ sources.Needed other name :=
      fun otherNeeded => needed (otherNeeded.perm permuted.symm otherDistinct)
    rw [outcome.class?_of_not_needed needed, otherOutcome.class?_of_not_needed useless]
    exact .none

theorem originOf_perm (name : String) : first.originOf name = second.originOf name :=
  outcome.originOf_through otherOutcome Eq
    (outcome.rel_class? otherOutcome permuted distinct name) rfl fun _ _ same => same.origin

/-- The chains of a class in the two imports correspond to each other. -/
theorem chains_correspond {declared otherDeclared : DeclaredClass}
    {published otherPublished : ImportedClass} {chain otherChain : ScopeChain}
    (same : declared.Corresponds state.store later.store otherDeclared)
    (resolved : state.Resolved sources batch chain declared published)
    (otherResolved : later.Resolved sources other otherChain otherDeclared otherPublished) :
    List.Forall₂ (state.store.Corresponds later.store) chain otherChain := by
  refine LexicalChain.related (fun name => ?_) (outcome.lexical resolved)
    (otherOutcome.lexical otherResolved) same.outline
  have declaredTwice := outcome.rel_class? otherOutcome permuted distinct name
  exact rel_map declaredTwice fun _ _ same => same.outline

theorem rel_sameClass (name : String) :
    Option.Rel (first.SameClass second) (first.class? name) (second.class? name) := by
  refine outcome.rel_classes otherOutcome (outcome.rel_class? otherOutcome permuted distinct name)
    fun member otherMember same resolved otherResolved => ?_
  have chains := outcome.chains_correspond otherOutcome permuted distinct same resolved
    otherResolved
  rw [← outcome.store, ← otherOutcome.store] at chains same
  exact outcome.sameClass otherOutcome member otherMember resolved otherResolved
    (outcome.originOf_perm otherOutcome permuted distinct) same chains

theorem infos_subset :
    state.classes.map DeclaredClass.info ⊆ later.classes.map DeclaredClass.info := by
  intro info listed
  obtain ⟨declared, member, rfl⟩ := List.mem_map.mp listed
  have same := outcome.rel_class? otherOutcome permuted distinct declared.name
  rw [outcome.sound.class?_of_mem member] at same
  obtain ⟨otherDeclared, otherPresent, same⟩ := exists_of_rel_some same
  exact List.mem_map.mpr
    ⟨otherDeclared, (ImportState.mem_of_class? otherPresent).1, same.info.symm⟩

theorem infos_perm :
    (state.classes.map DeclaredClass.info).Perm (later.classes.map DeclaredClass.info) := by
  have otherDistinct := (permuted.map ClassInfo.name).nodup_iff.mp distinct
  refine (List.perm_ext_iff_of_nodup outcome.sound.nodup_infos otherOutcome.sound.nodup_infos).mpr
    fun info => ⟨fun listed => ?_, fun listed => ?_⟩
  · exact outcome.infos_subset otherOutcome permuted distinct listed
  · exact otherOutcome.infos_subset outcome permuted.symm otherDistinct listed

theorem same : first.Same second where
  distinct := by
    rw [outcome.names_eq]
    exact outcome.sound.distinct
  names := by
    have infos := outcome.infos_perm otherOutcome permuted distinct
    have names := infos.map ClassInfo.name
    rw [List.map_map, List.map_map] at names
    rw [outcome.names_eq, otherOutcome.names_eq]
    exact names
  classes := outcome.rel_sameClass otherOutcome permuted distinct
  diagnostics := by
    have otherDistinct := (permuted.map ClassInfo.name).nodup_iff.mp distinct
    have infos := outcome.infos_perm otherOutcome permuted distinct
    have reordered := (infos.flatMap_right ClassInfo.declarationDiagnostics).append
      (infos.flatMap_right ClassInfo.resolutionDiagnostics)
    exact (outcome.diagnostics_perm distinct).trans
      (reordered.trans (otherOutcome.diagnostics_perm otherDistinct).symm)
  requests name := by
    have otherDistinct := (permuted.map ClassInfo.name).nodup_iff.mp distinct
    have needed : sources.Needed batch name ↔ sources.Needed other name :=
      ⟨fun needed => needed.perm permuted distinct,
        fun needed => needed.perm permuted.symm otherDistinct⟩
    rw [outcome.mem_requests_iff, otherOutcome.mem_requests_iff, needed]
    simp only [permuted.mem_iff]

end Pair

end Imported.Outcome

/-- The order of a batch does not matter as long as its classes have different names. In
any order, an import publishes the same classes from the same places, with the same type
parameters, bounds and types, if every scope is read as its owner. It reports the same
diagnostics, and it asks the classpath for the same names. -/
theorem importClasses_perm (options : ImportOptions) (classpath : Classpath)
    {batch other : List ClassInfo} (permuted : batch.Perm other)
    (distinct : (batch.map ClassInfo.name).Nodup) :
    (importClasses options classpath batch).Same (importClasses options classpath other) := by
  obtain ⟨state, outcome⟩ := importClasses_outcome options classpath batch
  obtain ⟨later, otherOutcome⟩ := importClasses_outcome options classpath other
  have sources : options.sources classpath other = options.sources classpath batch := by
    rw [ImportOptions.sources, ImportOptions.sources, permuted.length_eq]
  rw [sources] at otherOutcome
  exact outcome.same otherOutcome permuted distinct

set_option maxRecDepth 20000 in
/-- If `Base` comes first, the scopes of `Box` have other numbers. -/
theorem importClasses_perm_box :
    (importClasses .standard .empty [.box, .base]).Same
        (importClasses .standard .empty [.base, .box]) ∧
      ((importClasses .standard .empty [.box, .base]).class? "Box").map ImportedClass.scope =
        some (some 0) ∧
      ((importClasses .standard .empty [.base, .box]).class? "Box").map ImportedClass.scope =
        some (some 1) :=
  ⟨importClasses_perm .standard .empty (List.Perm.swap ClassInfo.base ClassInfo.box []) (by decide),
    by decide +kernel, by decide +kernel⟩

end JvmGenerics
