import JvmGenerics.Proofs.Import.Comparison
import JvmGenerics.Proofs.Import.Sources

/-!
# Requests and origins

An import asks the classpath once at most for a name, and never for a class of the batch.
What it found out is what the class references of the result say: the origin of each of
them is that of the class of this name in the table, or it is unresolved if there is none.
-/

namespace JvmGenerics

/-- The class references in all bounds and types of the result. -/
def Imported.references (imported : Imported) : List ClassRef :=
  (imported.classes.flatMap fun published => published.allTypes imported).flatMap
    JavaType.references

namespace ImportSources

variable {sources : ImportSources} {batch : List ClassInfo}

/-- A class that its name means outside the batch is found on the classpath. -/
theorem load_of_classNamed? {name : String} {info : ClassInfo}
    (means : sources.classNamed? batch name = some (.classpath, info)) :
    sources.classpath.load name = some info := by
  unfold classNamed? at means
  split at means
  · simp at means
  · split at means
    · simp only [Option.map_eq_some_iff, Prod.mk.injEq, true_and, exists_eq_right] at means
      exact (Option.filter_eq_some_iff.mp means).1
    · cases means

theorem originOf_of_mem_batch {info : ClassInfo} (member : info ∈ batch) :
    sources.originOf batch info.name = .imported := by
  have present : (batch.find? fun other => other.name == info.name).isSome := by
    rw [List.find?_isSome]
    exact ⟨info, member, beq_self_eq_true _⟩
  obtain ⟨first, found⟩ := Option.isSome_iff_exists.mp present
  simp [originOf, classNamed?, found]

/-- Where classes may be loaded, a name that means no class is not found, or another class
is found for it. -/
theorem ne_of_classNamed?_eq_none {name : String} (allowed : sources.fallback = true)
    (nothing : sources.classNamed? batch name = none) {info : ClassInfo}
    (loaded : sources.classpath.load name = some info) : info.name ≠ name := by
  rintro rfl
  unfold classNamed? at nothing
  split at nothing
  · cases nothing
  · simp [allowed, loaded] at nothing

end ImportSources

namespace Imported.Outcome

variable {sources : ImportSources} {batch : List ClassInfo} {imported : Imported}
variable {state : ImportState}

/-- A class of the result is one of the batch, or the classpath was asked for it and gave
it. -/
theorem origin_of_mem (outcome : imported.Outcome sources batch state)
    {published : ImportedClass} (member : published ∈ imported.classes) :
    published.origin = .imported ∧ published.info ∈ batch ∨
      published.origin = .classpath ∧ published.name ∈ imported.requests ∧
        sources.classpath.load published.name = some published.info := by
  obtain ⟨declared, inTable, chain, resolved⟩ := outcome.exists_resolved member
  have means := outcome.sound.known declared inTable
  have loaded := outcome.sound.loaded declared inTable
  rw [resolved.value, outcome.requests]
  rcases ImportSources.origin_of_classNamed? means with isBatch | isClasspath
  · rw [isBatch] at means
    exact Or.inl ⟨isBatch, (ImportSources.mem_of_classNamed? means).1⟩
  · rw [isClasspath] at means
    exact Or.inr ⟨isClasspath, loaded isClasspath, ImportSources.load_of_classNamed? means⟩

theorem originOf_of_mem (outcome : imported.Outcome sources batch state)
    {published : ImportedClass} (member : published ∈ imported.classes) :
    imported.originOf published.name = published.origin := by
  rw [originOf, outcome.class?_of_mem member, Option.map_some, Option.getD_some]

/-- A known origin is that of a class in the table. -/
theorem exists_of_originOf {name : String} (known : imported.originOf name ≠ .unresolved) :
    ∃ published ∈ imported.classes, published.name = name ∧
      published.origin = imported.originOf name := by
  unfold originOf at known ⊢
  cases found : imported.class? name with
  | none => simp [found] at known
  | some published =>
    exact ⟨published, List.mem_of_find?_eq_some found, by simpa using List.find?_some found, rfl⟩

theorem originOf_eq_imported_iff (outcome : imported.Outcome sources batch state)
    {name : String} :
    imported.originOf name = .imported ↔ ∃ info ∈ batch, info.name = name := by
  constructor
  · intro origin
    have known : imported.originOf name ≠ .unresolved := by simp [origin]
    obtain ⟨published, member, named, same⟩ := exists_of_originOf known
    rcases outcome.origin_of_mem member with ⟨-, inBatch⟩ | ⟨isClasspath, -⟩
    · exact ⟨published.info, inBatch, named⟩
    · rw [same, origin] at isClasspath
      cases isClasspath
  · rintro ⟨info, member, rfl⟩
    rw [outcome.originOf_eq (Or.inl (outcome.sound.covered info member))]
    exact ImportSources.originOf_of_mem_batch member

theorem originOf_eq_classpath_iff (outcome : imported.Outcome sources batch state)
    {name : String} :
    imported.originOf name = .classpath ↔
      ∃ published ∈ imported.classes, published.name = name ∧
        published.isFromClasspath = true := by
  simp only [ImportedClass.isFromClasspath, beq_iff_eq]
  constructor
  · intro origin
    have known : imported.originOf name ≠ .unresolved := by simp [origin]
    obtain ⟨published, member, named, same⟩ := exists_of_originOf known
    exact ⟨published, member, named, same.trans origin⟩
  · rintro ⟨published, member, rfl, origin⟩
    rw [outcome.originOf_of_mem member, origin]

theorem originOf_eq_unresolved_iff (outcome : imported.Outcome sources batch state)
    {name : String} :
    imported.originOf name = .unresolved ↔ imported.contains name = false := by
  rw [contains, originOf]
  cases found : imported.class? name with
  | none => simp
  | some published =>
    rcases outcome.origin_of_mem (List.mem_of_find?_eq_some found) with ⟨origin, -⟩ | ⟨origin, -⟩ <;>
      simp [origin]

/-- The origin of a reference is primitive, or it is what the table says of the name, and
that was settled during the import. -/
def HasOrigin (imported : Imported) (sources : ImportSources) (state : ImportState)
    (name : String) (origin : Origin) : Prop :=
  origin = .primitive ∨ origin = imported.originOf name ∧ state.Settled sources name

/-- A question about a settled name is answered by its origin. -/
theorem agreesOn_hasOrigin (imported : Imported) (chain : ScopeChain) {question : Question}
    (settled : ∀ name, question.className? = some name → state.Settled sources name) :
    Surroundings.AgreesOn (fun name origin _ => HasOrigin imported sources state name origin)
      (fun _ _ _ => True) (imported.view chain) (imported.view chain) question := by
  cases question with
  | origin name => exact Or.inr ⟨rfl, settled name rfl⟩
  | scope name => trivial

theorem hasOrigin_of_forall₂ {types others : List JavaType}
    (alike : List.Forall₂ (JavaType.Alike
      (fun name origin _ => HasOrigin imported sources state name origin) fun _ _ _ => True)
        types others) :
    ∀ reference ∈ types.flatMap JavaType.references,
      HasOrigin imported sources state reference.name reference.origin := by
  rw [← JavaType.referencesEach_eq_flatMap]
  intro reference member
  obtain ⟨_, known⟩ :=
    JavaType.AlikeEach.references_related types others (JavaType.alikeEach_iff.mpr alike)
      reference member
  exact known

theorem hasOrigin_of_method {chain : ScopeChain} {method : ImportedMethod}
    (resolved : imported.MethodResolvedIn chain method)
    (settled : ∀ question ∈ method.info.typeQuestions method.signature?,
      ∀ name, question.className? = some name → state.Settled sources name) :
    ∀ reference ∈ (method.allTypes imported).flatMap JavaType.references,
      HasOrigin imported sources state reference.name reference.origin := by
  have agrees (question : Question)
      (asked : question ∈ method.info.typeQuestions method.signature?) :=
    agreesOn_hasOrigin imported chain (settled question asked)
  have parameters := Surroundings.parametersOf_alike (fun _ => Or.inl rfl)
    (Signature.MethodSignature.parametersOf method.signature?)
    fun question asked => agrees question (method.info.mem_typeQuestions _ asked)
  have types := Surroundings.methodTypesOf_alike (fun _ => Or.inl rfl) method.info
    method.signature? agrees
  rw [ImportedMethod.allTypes, resolved.parameters, resolved.types]
  exact hasOrigin_of_forall₂ (List.rel_append (bounds_alike_of_parameters parameters) types.all)

theorem hasOrigin_of_class (outcome : imported.Outcome sources batch state)
    {published : ImportedClass} (member : published ∈ imported.classes) :
    ∀ reference ∈ (published.allTypes imported).flatMap JavaType.references,
      HasOrigin imported sources state reference.name reference.origin := by
  obtain ⟨declared, inTable, chain, resolved⟩ := outcome.exists_resolved member
  have resolvedIn := outcome.resolvedIn inTable resolved
  have agrees (question : Question)
      (asked : question ∈ published.info.typeQuestions published.signature?) :=
    agreesOn_hasOrigin imported chain <| outcome.settled_of_typeQuestion inTable
      resolved (by rwa [outcome.signature?_eq inTable resolved, resolved.value] at asked)
  have parameters := Surroundings.parametersOf_alike (fun _ => Or.inl rfl)
    (Signature.ClassSignature.parametersOf published.signature?)
    fun question asked => agrees question (published.info.mem_typeQuestions _ asked)
  have supertypes := Surroundings.supertypesOf_alike (fun _ => Or.inl rfl) published.info
    published.signature? agrees
  rw [ImportedClass.allTypes, List.flatMap_append, List.forall_mem_append]
  refine ⟨?_, fun reference inMethods => ?_⟩
  · rw [resolvedIn.parameters, resolvedIn.supertypes]
    exact hasOrigin_of_forall₂
      (List.rel_append (bounds_alike_of_parameters parameters) supertypes.all)
  · rw [List.flatMap_assoc, List.mem_flatMap] at inMethods
    obtain ⟨method, listed, inMethod⟩ := inMethods
    refine hasOrigin_of_method (resolvedIn.methods method listed) ?_ reference inMethod
    rw [resolved.value] at listed
    obtain ⟨declaredMethod, own, rfl⟩ := List.mem_map.mp listed
    rw [outcome.signature?_method_eq inTable own]
    exact fun question asked => outcome.settled_of_methodQuestion inTable resolved own asked

/-- The origin of a reference is what the table says of its name, and that name was looked
up during the import. -/
theorem origin_of_reference (outcome : imported.Outcome sources batch state)
    {reference : ClassRef} (listed : reference ∈ imported.references)
    (isClass : reference.isPrimitive = false) :
    reference.origin = imported.originOf reference.name ∧
      state.Settled sources reference.name := by
  rw [references, List.flatMap_assoc, List.mem_flatMap] at listed
  obtain ⟨published, member, listed⟩ := listed
  rcases outcome.hasOrigin_of_class member reference listed with isPrimitive | known
  · simp [ClassRef.isPrimitive, isPrimitive] at isClass
  · exact known

theorem nodup_requests (outcome : imported.Outcome sources batch state) :
    imported.requests.Nodup := by
  obtain ⟨touched, grown⟩ := outcome.grown
  have ⟨gathered, _⟩ := ImportState.ofBatch_spec sources batch
  rw [outcome.requests]
  exact grown.unrepeated (gathered.requests ▸ List.nodup_nil)

theorem requests_eq_nil (outcome : imported.Outcome sources batch state)
    (forbidden : sources.fallback = false) : imported.requests = [] := by
  rw [outcome.requests, List.eq_nil_iff_forall_not_mem]
  intro name asked
  have allowed := (outcome.sound.asked name asked).1
  rw [forbidden] at allowed
  cases allowed

/-- An unresolved name was asked for, and its class was not found. -/
theorem asked_of_unresolved (outcome : imported.Outcome sources batch state)
    (allowed : sources.fallback = true) {name : String} (settled : state.Settled sources name)
    (absent : imported.contains name = false) :
    name ∈ imported.requests ∧
      ∀ info, sources.classpath.load name = some info → info.name ≠ name := by
  have same := outcome.class?_related name
  rw [contains, Option.isSome_eq_false_iff, Option.isNone_iff_eq_none] at absent
  rw [absent] at same
  have missing : state.class? name = none := by
    cases found : state.class? name with
    | none => rfl
    | some declared => rw [found] at same; cases same
  have nothing := outcome.sound.classNamed?_eq settled
  rw [missing, Option.map_none] at nothing
  refine ⟨?_, fun info => ImportSources.ne_of_classNamed?_eq_none allowed nothing⟩
  rw [outcome.requests]
  rcases settled with present | forbidden | asked
  · rw [missing] at present
    cases present
  · rw [allowed] at forbidden
    cases forbidden
  · exact asked

end Imported.Outcome

/-- An import asks for no name twice and for no class of its batch. Where classes may not
be loaded it asks for none at all, and then the result is the same with every classpath. A
class of the result is one of the batch or was loaded under its own name. The origin of a
class reference tells which of the two its class is, or that the result has no such class;
such a class was asked for once, if classes may be loaded, and it was not found. -/
theorem load_discipline (options : ImportOptions) (classpath : Classpath)
    (batch : List ClassInfo) :
    let imported := importClasses options classpath batch
    imported.requests.Nodup ∧
      (∀ info ∈ batch, info.name ∉ imported.requests) ∧
      (options.resolveMissingFromClasspath = false → imported.requests = [] ∧
        ∀ other, importClasses options other batch = imported) ∧
      (∀ published ∈ imported.classes,
        published.origin = .imported ∧ published.info ∈ batch ∨
          published.origin = .classpath ∧ published.name ∈ imported.requests ∧
            classpath.load published.name = some published.info) ∧
      ∀ reference ∈ imported.references, reference.isPrimitive = false →
        (reference.origin = .imported ↔ ∃ info ∈ batch, info.name = reference.name) ∧
          (reference.origin = .classpath ↔ ∃ published ∈ imported.classes,
            published.name = reference.name ∧ published.isFromClasspath = true) ∧
          (reference.origin = .unresolved ↔ imported.contains reference.name = false) ∧
          (reference.origin = .unresolved → options.resolveMissingFromClasspath = true →
            imported.requests.count reference.name = 1 ∧
              ∀ info, classpath.load reference.name = some info →
                info.name ≠ reference.name) := by
  intro imported
  obtain ⟨state, outcome⟩ := importClasses_outcome options classpath batch
  refine ⟨outcome.nodup_requests, fun info member asked => ?_, fun forbidden => ⟨?_, ?_⟩,
    fun published => outcome.origin_of_mem, fun reference listed isClass => ?_⟩
  · rw [outcome.requests] at asked
    exact (outcome.sound.asked info.name asked).2.1 info member rfl
  · exact outcome.requests_eq_nil forbidden
  · intro other
    refine importClasses_congr options (fun allowed => ?_) batch
    rw [forbidden] at allowed
    cases allowed
  · obtain ⟨origin, settled⟩ := outcome.origin_of_reference listed isClass
    rw [origin]
    refine ⟨outcome.originOf_eq_imported_iff, outcome.originOf_eq_classpath_iff,
      outcome.originOf_eq_unresolved_iff, fun unresolved allowed => ?_⟩
    obtain ⟨asked, nothing⟩ := outcome.asked_of_unresolved allowed settled
      (outcome.originOf_eq_unresolved_iff.mp unresolved)
    exact ⟨List.count_eq_one_of_mem outcome.nodup_requests asked, nothing⟩

set_option maxRecDepth 20000 in
/-- `Base` is loaded for `Box`, and `java.lang.Object` is asked for in vain. Without
loading, nothing is asked for. -/
theorem load_discipline_box :
    let classpath := Classpath.ofClasses [.base]
    let imported := importClasses .standard classpath [.box]
    ⟨"Base", 0, .classpath⟩ ∈ imported.references ∧
      (∃ published ∈ imported.classes, published.name = "Base" ∧
        published.isFromClasspath = true) ∧
      ⟨objectName, 0, .unresolved⟩ ∈ imported.references ∧
      imported.contains objectName = false ∧ imported.requests.count objectName = 1 ∧
      (importClasses ⟨false⟩ classpath [.box]).requests = [] := by
  intro classpath imported
  have loaded : ⟨"Base", 0, .classpath⟩ ∈ imported.references := by decide +kernel
  have missing : ⟨objectName, 0, .unresolved⟩ ∈ imported.references := by decide +kernel
  obtain ⟨-, -, -, -, references⟩ := load_discipline .standard classpath [.box]
  obtain ⟨-, fromClasspath, -, -⟩ := references _ loaded rfl
  obtain ⟨-, -, unresolved, once⟩ := references _ missing rfl
  obtain ⟨-, -, offline, -⟩ := load_discipline ⟨false⟩ classpath [.box]
  exact ⟨loaded, fromClasspath.mp rfl, missing, unresolved.mp rfl, (once rfl rfl).1,
    (offline rfl).1⟩

end JvmGenerics
