import JvmGenerics.Proofs.Import.Outcome

/-!
# What of the sources matters

An import depends on its classpath through the answers alone that it may ask for. The
names that bound its rounds play no part in the result, and where classes may not be
loaded, neither does the classpath.
-/

namespace JvmGenerics

open ImportState

/-- Sources with the same answers, as far as classes may be loaded. -/
structure ImportSources.SameAnswers (sources other : ImportSources) : Prop where
  fallback : sources.fallback = other.fallback
  read : sources.fallback = true → sources.classpath.read = other.classpath.read

namespace ImportSources.SameAnswers

variable {sources other : ImportSources} {batch : List ClassInfo}

theorem classNamed?_eq (same : sources.SameAnswers other) :
    sources.classNamed? batch = other.classNamed? batch := by
  funext name
  unfold classNamed? Classpath.load
  rw [← same.fallback]
  by_cases allowed : sources.fallback = true
  · rw [same.read allowed]
  · simp only [allowed, Bool.false_eq_true, if_false]

theorem sound (same : sources.SameAnswers other) {reported : List Diagnostic}
    {state : ImportState} (sound : state.Sound sources batch reported) :
    state.Sound other batch reported := by
  have known := sound.known
  have asked := sound.asked
  rw [same.classNamed?_eq] at known
  rw [same.classNamed?_eq, same.fallback] at asked
  exact ⟨sound.toWellFormed, known, sound.covered, asked, sound.loaded⟩

theorem requestClass_eq (same : sources.SameAnswers other) (allowed : sources.fallback = true) :
    Import.requestClass sources = Import.requestClass other := by
  funext name
  simp only [Import.requestClass, same.read allowed]

theorem ensureClass_eq (same : sources.SameAnswers other) :
    Import.ensureClass sources = Import.ensureClass other := by
  funext name
  unfold Import.ensureClass
  rw [← same.fallback]
  by_cases allowed : sources.fallback = true
  · rw [same.requestClass_eq allowed]
  · simp only [allowed, Bool.false_and, Bool.false_eq_true, if_false]

theorem surroundings_eq (same : sources.SameAnswers other) :
    Import.surroundings sources = Import.surroundings other := by
  funext chain
  simp only [Import.surroundings, same.ensureClass_eq]

theorem resolveMethod_eq (same : sources.SameAnswers other) :
    Import.resolveMethod sources = Import.resolveMethod other := by
  funext className chain declared
  simp only [Import.resolveMethod, same.surroundings_eq]

theorem resolveSupertypes_eq (same : sources.SameAnswers other) :
    Import.resolveSupertypes sources = Import.resolveSupertypes other := by
  funext chain declared
  simp only [Import.resolveSupertypes, same.surroundings_eq]

end ImportSources.SameAnswers

namespace Import

variable {sources other : ImportSources} {batch : List ClassInfo} {reported : List Diagnostic}
variable {state : ImportState}

section Limits

variable (same : sources.SameAnswers other)
variable (limited : batch.length + sources.classpath.names.length ≤ sources.limit)
variable (otherLimited : batch.length + other.classpath.names.length ≤ other.limit)
include same limited otherLimited

/-- A walk that has rounds enough does not depend on their number. -/
theorem chainFrom_run_eq (rounds otherRounds : Nat) {visited : List String}
    {declared : DeclaredClass} (sound : state.Sound sources batch reported)
    (member : declared ∈ state.classes) (distinct : visited.Nodup)
    (passed : visited ⊆ state.classes.map DeclaredClass.name)
    (enough : sources.limit < rounds + visited.length)
    (otherEnough : other.limit < otherRounds + visited.length) :
    (chainFrom sources rounds visited declared).run state =
      (chainFrom other otherRounds visited declared).run state := by
  induction rounds generalizing otherRounds state visited declared with
  | zero =>
    have length := sound.length_le_of_passed distinct passed
    omega
  | succ rounds ih =>
    cases otherRounds with
    | zero =>
      have length := (same.sound sound).length_le_of_passed distinct passed
      omega
    | succ otherRounds =>
      by_cases met : declared.name ∈ visited
      · rw [chainFrom_of_passed met, chainFrom_of_passed met]
      cases enclosing : declared.info.enclosing with
      | none => rw [chainFrom_of_alone met enclosing, chainFrom_of_alone met enclosing]
      | some place =>
        cases isStatic : place.isStatic with
        | true =>
          rw [chainFrom_of_cut met enclosing isStatic, chainFrom_of_cut met enclosing isStatic]
        | false =>
          have ⟨found, middle, first⟩ := ensureClass_spec sound place.className
          cases effect : (ensureClass sources place.className).run state with
          | mk result asked =>
          have otherEffect := effect
          rw [same.ensureClass_eq] at otherEffect
          rw [effect] at found middle first
          cases result with
          | none =>
            rw [chainFrom_of_missing met enclosing isStatic effect,
              chainFrom_of_missing met enclosing isStatic otherEffect]
          | some around =>
            have classes := (first.classes.map DeclaredClass.name).subset
            have listed := classes (List.mem_map_of_mem member)
            have outwards := ih otherRounds middle (mem_of_class? found.symm).1
              (List.nodup_cons.mpr ⟨met, distinct⟩)
              (List.cons_subset.mpr ⟨listed, List.Subset.trans passed classes⟩)
              (by rw [List.length_cons]; omega) (by rw [List.length_cons]; omega)
            rw [chainFrom_of_nested met enclosing isStatic effect,
              chainFrom_of_nested met enclosing isStatic otherEffect, outwards]

theorem resolveClass_run_eq (sound : state.Sound sources batch reported)
    {declared : DeclaredClass} (member : declared ∈ state.classes) :
    (resolveClass sources declared).run state = (resolveClass other declared).run state := by
  have walk := chainFrom_run_eq same limited otherLimited (sources.limit + 1) (other.limit + 1)
    sound member List.nodup_nil (List.nil_subset _) (by simp) (by simp)
  rw [resolveClass_run, resolveClass_run, same.resolveSupertypes_eq, same.resolveMethod_eq,
    lexicalChain, lexicalChain, walk]

theorem resolveFrom_run_eq (rounds otherRounds next : Nat)
    (sound : state.Sound sources batch reported) (enough : sources.limit ≤ rounds + next)
    (otherEnough : other.limit ≤ otherRounds + next) :
    (resolveFrom sources rounds next).run state =
      (resolveFrom other otherRounds next).run state := by
  induction rounds generalizing otherRounds state reported next with
  | zero =>
    have classes := sound.length_classes_le
    have atEnd : state.classes[next]? = none := List.getElem?_eq_none (by omega)
    rw [resolveFrom_of_end atEnd, resolveFrom_of_end atEnd]
  | succ rounds ih =>
    cases listed : state.classes[next]? with
    | none => rw [resolveFrom_of_end listed, resolveFrom_of_end listed]
    | some declared =>
      have bound := (List.getElem?_eq_some_iff.mp listed).1
      have classes := (same.sound sound).length_classes_le
      cases otherRounds with
      | zero => omega
      | succ otherRounds =>
        have member := List.mem_of_getElem? listed
        have ⟨middle, _, _⟩ := resolveClass_spec limited sound member
        rw [resolveFrom_of_class listed, resolveFrom_of_class listed,
          ← resolveClass_run_eq same limited otherLimited sound member]
        simp only [ih otherRounds (next + 1) middle (by omega) (by omega)]

end Limits

end Import

/-- Classpaths that answer alike yield the same result; where classes may not be loaded,
any two classpaths do. -/
theorem importClasses_congr (options : ImportOptions) {classpath other : Classpath}
    (read : options.resolveMissingFromClasspath = true → classpath.read = other.read)
    (batch : List ClassInfo) :
    importClasses options classpath batch = importClasses options other batch := by
  have same : (options.sources classpath batch).SameAnswers (options.sources other batch) :=
    ⟨rfl, read⟩
  have ⟨gathered, _⟩ := ImportState.ofBatch_spec (options.sources classpath batch) batch
  have resolved := Import.resolveFrom_run_eq same (Nat.le_refl _) (Nat.le_refl _)
    (options.sources classpath batch).limit (options.sources other batch).limit 0
    gathered.toSound (Nat.le_refl _) (Nat.le_refl _)
  have run (found : Classpath) : importClasses options found batch =
      let sources := options.sources found batch
      let resolved := (Import.resolveFrom sources sources.limit 0).run (.ofBatch batch)
      let start := (ImportState.ofBatch batch).classes.length
      ⟨resolved.1, resolved.2.store, resolved.2.diagnostics, resolved.2.requests,
        resolved.2.events ++ [.finished start (resolved.2.classes.length - start)
          resolved.2.diagnostics.length], resolved.2.defects⟩ :=
    rfl
  simp only [run, resolved]

end JvmGenerics
