import JvmGenerics.Proofs.Import.BatchOrder
import JvmGenerics.Proofs.Import.Worklist
import Mathlib.Order.Bounds.Defs

/-!
# What an import publishes

An import begins with its batch, and the classes that it publishes need others: the class
around them, and those that their signatures and erased types name. Where classes may be
loaded, an import publishes what is needed in this way as far as the classpath has it, and
nothing else, and it asks the classpath for nothing else.
-/

namespace JvmGenerics

/-- A set of classes that leaves nothing out: it has the batch, which means the first class
of each name in it, and whatever the classpath finds under its own name for a name that one
of its classes needs. A name of the batch means the class of the batch. -/
structure ClosedUnderNeeds (classpath : Classpath) (batch : List ClassInfo)
    (classes : Set ClassInfo) : Prop where
  begun : ∀ info ∈ ClassInfo.firsts [] batch, info ∈ classes
  needed : ∀ info ∈ classes, ∀ name ∈ info.needs, (∀ other ∈ batch, other.name ≠ name) →
    ∀ found, classpath.load name = some found → found.name = name → found ∈ classes

theorem ClassInfo.mem_firsts_of_find? {seen : List String} {batch : List ClassInfo}
    {name : String} {info : ClassInfo} (fresh : name ∉ seen)
    (found : batch.find? (fun other => other.name == name) = some info) :
    info ∈ firsts seen batch := by
  induction batch generalizing seen with
  | nil => cases found
  | cons other rest ih =>
    rw [firsts]
    by_cases same : other.name = name
    · obtain rfl : other = info := by simpa [same] using found
      rw [if_neg (same ▸ fresh)]
      exact List.mem_cons_self
    · rw [List.find?_cons_of_neg (by simpa using same)] at found
      split
      · exact ih fresh found
      · exact List.mem_cons_of_mem _ (ih (by simp [fresh, Ne.symm same]) found)

namespace ImportSources

variable {sources : ImportSources} {batch : List ClassInfo} {name : String} {info : ClassInfo}

/-- A name outside the batch means what the classpath finds under that name. -/
theorem classNamed?_eq_classpath_iff (allowed : sources.fallback = true)
    (outside : ∀ other ∈ batch, other.name ≠ name) :
    sources.classNamed? batch name = some (.classpath, info) ↔
      sources.classpath.load name = some info ∧ info.name = name := by
  have absent : batch.find? (fun other => other.name == name) = none := by
    simpa [List.find?_eq_none] using outside
  simp [classNamed?, absent, allowed, Option.filter_eq_some_iff]

/-- A name means the first class of the batch with that name, or what the classpath finds. -/
theorem find?_or_load_of_classNamed? {origin : Origin}
    (means : sources.classNamed? batch name = some (origin, info)) :
    batch.find? (fun other => other.name == name) = some info ∨
      (∀ other ∈ batch, other.name ≠ name) ∧ sources.classpath.load name = some info ∧
        info.name = name := by
  unfold classNamed? at means
  split at means
  · next found present =>
    obtain ⟨-, rfl⟩ := Prod.mk.inj (Option.some.inj means)
    exact Or.inl present
  · next absent =>
    have outside : ∀ other ∈ batch, other.name ≠ name := by simpa using absent
    split at means
    · simp only [Option.map_eq_some_iff, Option.filter_eq_some_iff, Prod.mk.injEq,
        beq_iff_eq] at means
      obtain ⟨found, ⟨loaded, named⟩, -, rfl⟩ := means
      exact Or.inr ⟨outside, loaded, named⟩
    · cases means

/-- Whatever a needed name means lies in every set that leaves nothing out. -/
theorem Needed.mem_of_closed {classes : Set ClassInfo}
    (closed : ClosedUnderNeeds sources.classpath batch classes)
    (needed : sources.Needed batch name) {origin : Origin}
    (means : sources.classNamed? batch name = some (origin, info)) : info ∈ classes := by
  induction needed generalizing origin info with
  | batch member =>
    rcases find?_or_load_of_classNamed? means with inBatch | ⟨outside, -⟩
    · exact closed.begun info (ClassInfo.mem_firsts_of_find? List.not_mem_nil inBatch)
    · exact absurd rfl (outside _ member)
  | need _ around need ih =>
    rcases find?_or_load_of_classNamed? means with inBatch | ⟨outside, loaded, named⟩
    · exact closed.begun info (ClassInfo.mem_firsts_of_find? List.not_mem_nil inBatch)
    · exact closed.needed _ (ih around) _ need outside info loaded named

end ImportSources

namespace Imported.Outcome

variable {sources : ImportSources} {batch : List ClassInfo} {imported : Imported}
variable {state : ImportState}

/-- A class that its name means is published as soon as its name is needed. -/
theorem mem_infos_of_needed (outcome : imported.Outcome sources batch state) {name : String}
    (needed : sources.Needed batch name) {origin : Origin} {info : ClassInfo}
    (means : sources.classNamed? batch name = some (origin, info)) :
    info ∈ imported.classes.map ImportedClass.info := by
  rw [← outcome.class?_of_needed needed, Option.map_eq_some_iff] at means
  obtain ⟨declared, present, same⟩ := means
  rw [outcome.infos_eq]
  exact List.mem_map.mpr ⟨declared, (ImportState.mem_of_class? present).1, (Prod.mk.inj same).2⟩

/-- Outside the batch, the needed names are those that a published class needs. -/
theorem needed_iff (outcome : imported.Outcome sources batch state) {name : String}
    (outside : ∀ info ∈ batch, info.name ≠ name) :
    sources.Needed batch name ↔ ∃ published ∈ imported.classes, name ∈ published.info.needs := by
  constructor
  · intro needed
    cases needed with
    | batch member => exact absurd rfl (outside _ member)
    | @need other _ _ info around means need =>
      obtain ⟨published, member, rfl⟩ :=
        List.mem_map.mp (outcome.mem_infos_of_needed around means)
      exact ⟨published, member, need⟩
  · rintro ⟨published, member, need⟩
    obtain ⟨declared, inTable, chain, resolved⟩ := outcome.exists_resolved member
    rw [resolved.value] at need
    exact outcome.sound.needed_of_mem outcome.justified inTable need

theorem closedUnderNeeds (outcome : imported.Outcome sources batch state)
    (allowed : sources.fallback = true) :
    ClosedUnderNeeds sources.classpath batch
      {info | info ∈ imported.classes.map ImportedClass.info} where
  begun info first := by
    have ⟨_, infos⟩ := ImportState.ofBatch_spec sources batch
    obtain ⟨touched, grown⟩ := outcome.grown
    rw [← infos] at first
    change info ∈ imported.classes.map ImportedClass.info
    rw [outcome.infos_eq]
    exact (grown.classes.map DeclaredClass.info).subset first
  needed info member name need outside found loaded named := by
    obtain ⟨published, listed, rfl⟩ := List.mem_map.mp member
    have needed := (outcome.needed_iff outside).mpr ⟨published, listed, need⟩
    exact outcome.mem_infos_of_needed needed
      ((ImportSources.classNamed?_eq_classpath_iff allowed outside).mpr ⟨loaded, named⟩)

theorem mem_of_closed (outcome : imported.Outcome sources batch state)
    {classes : Set ClassInfo} (closed : ClosedUnderNeeds sources.classpath batch classes) :
    ∀ info ∈ imported.classes.map ImportedClass.info, info ∈ classes := by
  intro info member
  rw [outcome.infos_eq] at member
  obtain ⟨declared, inTable, rfl⟩ := List.mem_map.mp member
  exact (outcome.justified.classes declared inTable).mem_of_closed closed
    (outcome.sound.known declared inTable)

end Imported.Outcome

/-- Every import ends, after it has taken every class that it declared from the table exactly
once: the work that nothing bounds has one outcome, and it is that of the import. Where
classes may be loaded, the published classes are the least set that leaves nothing out, and
the names that the classpath is asked for are those outside the batch that a published class
needs. -/
theorem import_closure (options : ImportOptions) (classpath : Classpath)
    (batch : List ClassInfo) :
    let imported := importClasses options classpath batch
    (∃ table : ImportState,
      (∀ taken resolved after, Import.Works (options.sources classpath batch) 0 (.ofBatch batch)
        taken resolved after ↔
          taken = table.classes ∧ resolved = imported.classes ∧ after = table) ∧
      (table.classes.map DeclaredClass.name).Nodup) ∧
    (options.resolveMissingFromClasspath = true →
      IsLeast {classes | ClosedUnderNeeds classpath batch classes}
        {info | info ∈ imported.classes.map ImportedClass.info} ∧
      ∀ name, name ∈ imported.requests ↔
        (∃ published ∈ imported.classes, name ∈ published.info.needs) ∧
          ∀ info ∈ batch, info.name ≠ name) := by
  intro imported
  have outcome := importClasses_outcome_lastState options classpath batch
  have works := options.works classpath batch
  refine ⟨⟨_, fun taken resolved after => ⟨works.unique, ?_⟩, outcome.sound.distinct⟩,
    fun allowed => ⟨⟨outcome.closedUnderNeeds allowed, fun classes closed =>
      outcome.mem_of_closed closed⟩, fun name => ?_⟩⟩
  · rintro ⟨rfl, rfl, rfl⟩
    exact works
  · rw [outcome.mem_requests_iff]
    constructor
    · rintro ⟨-, needed, outside⟩
      exact ⟨(outcome.needed_iff outside).mp needed, outside⟩
    · rintro ⟨need, outside⟩
      exact ⟨allowed, (outcome.needed_iff outside).mpr need, outside⟩

set_option maxRecDepth 20000 in
/-- `Box` needs `Base`, which is loaded, and `Base` needs nothing that can be found. -/
theorem import_closure_box :
    let classpath := Classpath.ofClasses [.base]
    let imported := importClasses .standard classpath [.box]
    ImportOptions.standard.resolveMissingFromClasspath = true ∧
      IsLeast {classes | ClosedUnderNeeds classpath [.box] classes}
        {info | info ∈ imported.classes.map ImportedClass.info} ∧
      imported.classes.map ImportedClass.info = [.box, .base] ∧
      ∃ published ∈ imported.classes, "Base" ∈ published.info.needs := by
  intro classpath imported
  have asked : "Base" ∈ imported.requests := by decide +kernel
  obtain ⟨-, closure⟩ := import_closure .standard classpath [.box]
  obtain ⟨least, requests⟩ := closure rfl
  exact ⟨rfl, least, by decide +kernel, ((requests "Base").mp asked).1⟩

end JvmGenerics
