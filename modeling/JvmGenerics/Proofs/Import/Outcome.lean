import JvmGenerics.Proofs.Import.Resolve

/-!
# The outcome of an import

An import of a batch declares the batch, and then it resolves class after class until
none is left. What comes out is a table in which every class was resolved for good.
-/

namespace JvmGenerics

/-- The diagnostics of classes whose names came before, in the batch or in `seen`. -/
def ClassInfo.repeatDiagnostics (seen : List String) : List ClassInfo → List Diagnostic
  | [] => []
  | info :: rest =>
    if info.name ∈ seen then .duplicateClass info.name :: repeatDiagnostics seen rest
    else repeatDiagnostics (info.name :: seen) rest

/-- The classes of a batch that count: no class before them, in the batch or in `seen`, has
the same name. -/
def ClassInfo.firsts (seen : List String) : List ClassInfo → List ClassInfo
  | [] => []
  | info :: rest =>
    if info.name ∈ seen then firsts seen rest else info :: firsts (info.name :: seen) rest

theorem ClassInfo.repeatDiagnostics_eq_nil {seen : List String} {batch : List ClassInfo}
    (distinct : (batch.map ClassInfo.name).Nodup)
    (fresh : ∀ info ∈ batch, info.name ∉ seen) : repeatDiagnostics seen batch = [] := by
  induction batch generalizing seen with
  | nil => rfl
  | cons info rest ih =>
    rw [List.map_cons, List.nodup_cons] at distinct
    rw [List.forall_mem_cons] at fresh
    rw [repeatDiagnostics, if_neg fresh.1]
    refine ih distinct.2 fun other member seenBefore => ?_
    rcases List.mem_cons.mp seenBefore with same | earlier
    · exact distinct.1 (same ▸ List.mem_map_of_mem member)
    · exact fresh.2 other member earlier

theorem ClassInfo.firsts_eq_self {seen : List String} {batch : List ClassInfo}
    (distinct : (batch.map ClassInfo.name).Nodup)
    (fresh : ∀ info ∈ batch, info.name ∉ seen) : firsts seen batch = batch := by
  induction batch generalizing seen with
  | nil => rfl
  | cons info rest ih =>
    rw [List.map_cons, List.nodup_cons] at distinct
    rw [List.forall_mem_cons] at fresh
    rw [firsts, if_neg fresh.1, ih distinct.2]
    intro other member seenBefore
    rcases List.mem_cons.mp seenBefore with same | earlier
    · exact distinct.1 (same ▸ List.mem_map_of_mem member)
    · exact fresh.2 other member earlier

namespace ImportState

/-- The state after the declaration of the first classes of a batch: nothing was asked
for, and all classes come from the batch. -/
structure Gathered (sources : ImportSources) (batch : List ClassInfo)
    (reported : List Diagnostic) (state : ImportState) : Prop
    extends state.Sound sources batch reported where
  requests : state.requests = []
  origins : ∀ found ∈ state.classes, found.origin = .imported

variable {sources : ImportSources} {batch : List ClassInfo} {reported : List Diagnostic}
variable {state : ImportState}

theorem gathered_start (sources : ImportSources) : start.Gathered sources [] [] where
  distinct := List.nodup_nil
  declared := by simp [start]
  layout := rfl
  diagnostics := List.Perm.refl _
  defects := rfl
  known := by simp [start]
  covered := by simp
  asked := by simp [start]
  loaded := by simp [start]
  requests := rfl
  origins := by simp [start]

end ImportState

namespace ImportSources

variable {sources : ImportSources} {batch : List ClassInfo}

/-- A class of the batch stays what its name means when the batch grows. -/
theorem classNamed?_append {name : String} {info : ClassInfo} (other : ClassInfo)
    (means : sources.classNamed? batch name = some (.imported, info)) :
    sources.classNamed? (batch ++ [other]) name = some (.imported, info) := by
  unfold classNamed? at means ⊢
  rw [List.find?_append]
  split at means
  · next found present => simpa [present] using means
  · split at means <;> simp at means

theorem classNamed?_append_of_fresh {info : ClassInfo}
    (fresh : ∀ other ∈ batch, other.name ≠ info.name) :
    sources.classNamed? (batch ++ [info]) info.name = some (.imported, info) := by
  have absent : batch.find? (fun other => other.name == info.name) = none := by
    simpa [List.find?_eq_none] using fresh
  simp [classNamed?, List.find?_append, absent]

/-- The origin of a class that its name means is the batch or the classpath. -/
theorem origin_of_classNamed? {name : String} {origin : Origin} {info : ClassInfo}
    (means : sources.classNamed? batch name = some (origin, info)) :
    origin = .imported ∨ origin = .classpath := by
  unfold classNamed? at means
  split at means
  · simp only [Option.some.injEq, Prod.mk.injEq] at means
    exact Or.inl means.1.symm
  · split at means
    · obtain ⟨found, -, same⟩ := Option.map_eq_some_iff.mp means
      exact Or.inr (Prod.mk.inj same).1.symm
    · cases means

theorem mem_of_classNamed? {name : String} {info : ClassInfo}
    (means : sources.classNamed? batch name = some (.imported, info)) :
    info ∈ batch ∧ info.name = name := by
  unfold classNamed? at means
  split at means
  · next found present =>
    obtain rfl : found = info := by simpa using means
    exact ⟨List.mem_of_find?_eq_some present, by simpa using List.find?_some present⟩
  · split at means <;> simp at means

end ImportSources

namespace Import

open ImportState

variable {sources : ImportSources} {batch : List ClassInfo} {reported : List Diagnostic}
variable {state : ImportState}

theorem declareBatchClass_of_present {info : ClassInfo} {found : DeclaredClass}
    (present : state.class? info.name = some found) :
    (declareBatchClass info).run state =
      ((), (state.withEvents (state.events ++ [.duplicateClass info.name])).reporting
        (.duplicateClass info.name)) := by
  have first : (get : Import ImportState).run state = (state, state) := rfl
  simp only [declareBatchClass, run_bind, first, present]
  rfl

theorem declareBatchClass_of_absent {info : ClassInfo} (absent : state.class? info.name = none)
    (fresh : ∀ owner ∈ state.owners, owner.className ≠ info.name) :
    (declareBatchClass info).run state =
      ((), state.adding (info.declaredAt .imported state.store.scopes.length)) := by
  have first : (get : Import ImportState).run state = (state, state) := rfl
  simp only [declareBatchClass, run_bind, first, absent, declareClass_run .imported fresh]
  rfl

/-- A class that joins the batch under a name that came before. -/
theorem gathered_repeating (gathered : state.Gathered sources batch reported) {info : ClassInfo}
    (present : (state.class? info.name).isSome) :
    ((state.withEvents (state.events ++ [.duplicateClass info.name])).reporting
      (.duplicateClass info.name)).Gathered sources (batch ++ [info])
        (reported ++ [.duplicateClass info.name]) := by
  suffices joined : state.Sound sources (batch ++ [info]) reported from
    ⟨(joined.withEvents _).reporting _, gathered.requests, gathered.origins⟩
  refine ⟨gathered.toWellFormed, ?_, ?_, ?_, gathered.loaded⟩
  · intro found member
    have means := gathered.known found member
    rw [gathered.origins found member] at means ⊢
    exact ImportSources.classNamed?_append info means
  · intro other member
    rcases List.mem_append.mp member with member | single
    · exact gathered.covered other member
    · obtain rfl := List.mem_singleton.mp single
      exact present
  · simp [gathered.requests]

theorem gathered_adding (gathered : state.Gathered sources batch reported) {info : ClassInfo}
    (absent : state.class? info.name = none) :
    (state.adding (info.declaredAt .imported state.store.scopes.length)).Gathered sources
      (batch ++ [info]) reported := by
  have fresh := gathered.toSound.ne_of_class?_eq_none absent
  have grown := grown_adding state .imported info
  have wellFormed := gathered.toWellFormed.adding .imported absent
  refine ⟨⟨wellFormed, ?_, ?_, ?_, ?_⟩, gathered.requests, ?_⟩
  · intro found member
    rcases List.mem_append.mp member with member | single
    · have means := gathered.known found member
      rw [gathered.origins found member] at means ⊢
      exact ImportSources.classNamed?_append info means
    · obtain rfl := List.mem_singleton.mp single
      exact ImportSources.classNamed?_append_of_fresh fresh
  · intro other member
    rcases List.mem_append.mp member with member | single
    · obtain ⟨found, present⟩ := Option.isSome_iff_exists.mp (gathered.covered other member)
      exact Option.isSome_iff_exists.mpr ⟨found, grown.class?_eq_some present⟩
    · obtain rfl := List.mem_singleton.mp single
      exact Option.isSome_iff_exists.mpr ⟨_, wellFormed.class?_of_mem
        (List.mem_append_right _ (List.mem_singleton.mpr rfl))⟩
  · intro name asked
    rw [show (state.adding _).requests = state.requests from rfl, gathered.requests] at asked
    cases asked
  · intro found member origin
    rcases List.mem_append.mp member with member | single
    · exact gathered.loaded found member origin
    · obtain rfl := List.mem_singleton.mp single
      cases origin
  · intro found member
    rcases List.mem_append.mp member with member | single
    · exact gathered.origins found member
    · obtain rfl := List.mem_singleton.mp single
      rfl

theorem declareBatchClass_gathered (gathered : state.Gathered sources batch reported)
    (info : ClassInfo) : ∃ reported,
      ((declareBatchClass info).run state).2.Gathered sources (batch ++ [info]) reported := by
  cases present : state.class? info.name with
  | some found =>
    rw [declareBatchClass_of_present present]
    exact ⟨_, gathered_repeating gathered (Option.isSome_iff_exists.mpr ⟨found, present⟩)⟩
  | none =>
    rw [declareBatchClass_of_absent present (gathered.toWellFormed.ne_of_class?_eq_none present)]
    exact ⟨_, gathered_adding gathered present⟩

/-- The names that were seen are those in the table, also after one class more. -/
theorem mem_seen_adding {seen : List String}
    (same : ∀ name, name ∈ seen ↔ (state.class? name).isSome) (info : ClassInfo)
    (origin : Origin) (next : ScopeId) (name : String) :
    name ∈ info.name :: seen ↔
      ((state.adding (info.declaredAt origin next)).class? name).isSome := by
  rw [List.mem_cons, same name, class?, class?, adding, List.find?_append]
  by_cases isNew : info.name = name
  · simp [isNew, ClassInfo.declaredAt, DeclaredClass.name]
  · simp [isNew, Ne.symm isNew, ClassInfo.declaredAt, DeclaredClass.name]

/-- Declaring a batch, where `seen` holds the names that came before. -/
theorem declareBatch_spec (rest : List ClassInfo) {seen : List String}
    (gathered : state.Gathered sources batch reported)
    (same : ∀ name, name ∈ seen ↔ (state.class? name).isSome) :
    let after := ((rest.forM declareBatchClass).run state).2
    after.Gathered sources (batch ++ rest)
        (reported ++ ClassInfo.repeatDiagnostics seen rest) ∧
      after.classes.map DeclaredClass.info =
        state.classes.map DeclaredClass.info ++ ClassInfo.firsts seen rest := by
  induction rest generalizing state batch reported seen with
  | nil =>
    rw [ClassInfo.repeatDiagnostics, ClassInfo.firsts, List.append_nil, List.append_nil,
      List.append_nil]
    exact ⟨gathered, rfl⟩
  | cons info rest ih =>
    have step : ((info :: rest).forM declareBatchClass).run state =
        (rest.forM declareBatchClass).run ((declareBatchClass info).run state).2 := rfl
    rw [step, ClassInfo.repeatDiagnostics, ClassInfo.firsts, List.append_cons batch]
    cases present : state.class? info.name with
    | some found =>
      have isSome := Option.isSome_iff_exists.mpr ⟨found, present⟩
      have seenBefore := (same info.name).mpr isSome
      rw [declareBatchClass_of_present present, if_pos seenBefore, if_pos seenBefore,
        List.append_cons reported]
      exact ih (gathered_repeating gathered isSome) same
    | none =>
      have fresh : info.name ∉ seen := fun seenBefore => by
        have isSome := (same info.name).mp seenBefore
        rw [present] at isSome
        cases isSome
      rw [declareBatchClass_of_absent present
        (gathered.toWellFormed.ne_of_class?_eq_none present), if_neg fresh, if_neg fresh,
        List.append_cons (state.classes.map DeclaredClass.info)]
      obtain ⟨after, infos⟩ := ih (gathered_adding gathered present)
        (mem_seen_adding same info .imported state.store.scopes.length)
      refine ⟨after, infos.trans ?_⟩
      rw [adding, List.map_append]
      rfl

end Import

namespace ImportState

variable {sources : ImportSources} {batch : List ClassInfo} {reported : List Diagnostic}
variable {state : ImportState}

/-- The classes of the table from a given place on were resolved, those included that
were loaded meanwhile. -/
structure ResolvedFrom (sources : ImportSources) (batch : List ClassInfo)
    (reported : List Diagnostic) (next : Nat) (before after : ImportState)
    (imported : List ImportedClass) : Prop where
  sound : after.Sound sources batch (reported ++
    (after.classes.drop next).flatMap fun found => found.info.resolutionDiagnostics)
  justified : after.Justified sources batch
  grown : before.Grown ((after.classes.drop next).flatMap fun found =>
    found.headers.map ScopeHeader.scope) after
  resolved : List.Forall₂ (fun declared imported =>
    ∃ chain, after.Resolved sources batch chain declared imported)
      (after.classes.drop next) imported

theorem resolvedFrom_of_end (sound : state.Sound sources batch reported)
    (justified : state.Justified sources batch) {next : Nat}
    (ended : state.classes.length ≤ next) :
    ResolvedFrom sources batch reported next state state [] := by
  have none := List.drop_eq_nil_of_le ended
  refine ⟨?_, justified, Grown.refl _ state, none ▸ .nil⟩
  rw [none, List.flatMap_nil, List.append_nil]
  exact sound

theorem WellFormed.nodup_scopes (wellFormed : state.WellFormed reported) :
    (state.classes.flatMap fun found => found.headers.map ScopeHeader.scope).Nodup := by
  rw [← List.map_flatMap, ← wellFormed.layout, TypeStore.map_scope_headers]
  exact List.nodup_range

theorem ResolvedFrom.cons {middle after : ImportState} {next : Nat} {declared : DeclaredClass}
    {imported : ImportedClass} {others : List ImportedClass} {chain : ScopeChain}
    (sound : middle.Sound sources batch (reported ++ declared.info.resolutionDiagnostics))
    (listed : state.classes[next]? = some declared)
    (first : state.Grown (declared.headers.map ScopeHeader.scope) middle)
    (resolved : middle.Resolved sources batch chain declared imported)
    (rest : ResolvedFrom sources batch (reported ++ declared.info.resolutionDiagnostics)
      (next + 1) middle after others) :
    ResolvedFrom sources batch reported next state after (imported :: others) := by
  have member := first.classes.subset (List.mem_of_getElem? listed)
  have drop : after.classes.drop next = declared :: after.classes.drop (next + 1) := by
    obtain ⟨bound, entry⟩ := List.getElem?_eq_some_iff.mp listed
    have kept := List.prefix_iff_getElem?.mp (first.classes.trans rest.grown.classes) next bound
    rw [List.drop_eq_getElem?_toList_append, kept, entry]
    rfl
  have untouched : ∀ scope ∈ declared.headers.map ScopeHeader.scope, scope ∉
      (after.classes.drop (next + 1)).flatMap fun found =>
        found.headers.map ScopeHeader.scope := by
    have distinct := rest.sound.nodup_scopes
    rw [← List.take_append_drop next after.classes, drop, List.flatMap_append,
      List.nodup_append', List.flatMap_cons, List.nodup_append'] at distinct
    exact fun scope own other => distinct.2.1.2.2 own other
  refine ⟨?_, rest.justified, ?_, ?_⟩
  · rw [drop, List.flatMap_cons, ← List.append_assoc]
    exact rest.sound
  · rw [drop, List.flatMap_cons]
    exact (first.mono (List.subset_append_left _ _)).trans
      (rest.grown.mono (List.subset_append_right _ _))
  · rw [drop]
    exact .cons ⟨chain, resolved.mono sound.toWellFormed member rest.grown untouched⟩
      rest.resolved

end ImportState

namespace Import

open ImportState

variable {sources : ImportSources} {batch : List ClassInfo} {reported : List Diagnostic}
variable {state : ImportState}

theorem resolveFrom_of_end {rounds next : Nat} (atEnd : state.classes[next]? = none) :
    (resolveFrom sources rounds next).run state = ([], state) := by
  cases rounds with
  | zero => rfl
  | succ rounds =>
    have first : (get : Import ImportState).run state = (state, state) := rfl
    simp only [resolveFrom, run_bind, first, atEnd, run_pure]

theorem resolveFrom_of_class {rounds next : Nat} {declared : DeclaredClass}
    (listed : state.classes[next]? = some declared) :
    (resolveFrom sources (rounds + 1) next).run state =
      let resolved := (resolveClass sources declared).run state
      let others := (resolveFrom sources rounds (next + 1)).run resolved.2
      (resolved.1 :: others.1, others.2) := by
  have first : (get : Import ImportState).run state = (state, state) := rfl
  simp only [resolveFrom, run_bind, first, listed, run_pure]

/-- The rounds suffice for all classes, those included that are loaded meanwhile. -/
theorem resolveFrom_spec (rounds next : Nat)
    (limited : batch.length + sources.classpath.names.length ≤ sources.limit)
    (sound : state.Sound sources batch reported)
    (justified : state.Justified sources batch) (enough : sources.limit ≤ rounds + next) :
    ResolvedFrom sources batch reported next state
      ((resolveFrom sources rounds next).run state).2
      ((resolveFrom sources rounds next).run state).1 := by
  induction rounds generalizing state reported next with
  | zero =>
    have classes := sound.length_classes_le
    exact resolvedFrom_of_end sound justified (by omega)
  | succ rounds ih =>
    cases listed : state.classes[next]? with
    | none =>
      rw [resolveFrom_of_end listed]
      exact resolvedFrom_of_end sound justified (List.getElem?_eq_none_iff.mp listed)
    | some declared =>
      rw [resolveFrom_of_class listed]
      have member := List.mem_of_getElem? listed
      have ⟨middle, first, chain, resolved⟩ := resolveClass_spec limited sound member
      have needed (name : String) (need : name ∈ declared.info.needs) :=
        sound.needed_of_mem justified member need
      exact .cons middle listed first.toGrown resolved
        (ih (next + 1) middle (first.justified justified needed) (by omega))

end Import

/-- What the import of a batch can draw on. -/
def ImportOptions.sources (options : ImportOptions) (classpath : Classpath)
    (batch : List ClassInfo) : ImportSources :=
  ⟨classpath, options.resolveMissingFromClasspath, batch.length + classpath.names.length⟩

/-- The state after the declaration of a batch. -/
def ImportState.ofBatch (batch : List ClassInfo) : ImportState :=
  ((batch.forM Import.declareBatchClass).run start).2

/-- The result of an import that ended in a given state: every class of the table was
resolved, the table begins with the batch, and the rest of the result is taken from the
state. -/
structure Imported.Outcome (sources : ImportSources) (batch : List ClassInfo)
    (imported : Imported) (state : ImportState) : Prop where
  sound : state.Sound sources batch (ClassInfo.repeatDiagnostics [] batch ++
    state.classes.flatMap fun found => found.info.resolutionDiagnostics)
  justified : state.Justified sources batch
  resolved : List.Forall₂ (fun declared imported =>
    ∃ chain, state.Resolved sources batch chain declared imported) state.classes imported.classes
  grown : ∃ touched, (ImportState.ofBatch batch).Grown touched state
  store : imported.store = state.store
  diagnostics : imported.diagnostics = state.diagnostics
  requests : imported.requests = state.requests
  defects : imported.defects = state.defects

theorem ImportState.Gathered.toJustified {sources : ImportSources} {batch : List ClassInfo}
    {reported : List Diagnostic} {state : ImportState}
    (gathered : state.Gathered sources batch reported) : state.Justified sources batch where
  classes found member := by
    have means := gathered.known found member
    rw [gathered.origins found member] at means
    obtain ⟨inBatch, named⟩ := ImportSources.mem_of_classNamed? means
    exact named ▸ .batch inBatch
  requests := by simp [gathered.requests]

theorem ImportState.ofBatch_spec (sources : ImportSources) (batch : List ClassInfo) :
    (ofBatch batch).Gathered sources batch (ClassInfo.repeatDiagnostics [] batch) ∧
      (ofBatch batch).classes.map DeclaredClass.info = ClassInfo.firsts [] batch :=
  Import.declareBatch_spec batch (gathered_start sources)
    fun name => show name ∈ [] ↔ (start.class? name).isSome by simp [start, class?]

/-- The state in which an import has resolved every class. -/
def ImportOptions.lastState (options : ImportOptions) (classpath : Classpath)
    (batch : List ClassInfo) : ImportState :=
  let sources := options.sources classpath batch
  ((Import.resolveFrom sources sources.limit 0).run (.ofBatch batch)).2

/-- Every import ends in such a state. -/
theorem importClasses_outcome_lastState (options : ImportOptions) (classpath : Classpath)
    (batch : List ClassInfo) :
    (importClasses options classpath batch).Outcome (options.sources classpath batch) batch
      (options.lastState classpath batch) := by
  have ⟨gathered, _⟩ := ImportState.ofBatch_spec (options.sources classpath batch) batch
  have resolved := Import.resolveFrom_spec (options.sources classpath batch).limit 0
    (Nat.le_refl _) gathered.toSound gathered.toJustified (Nat.le_refl _)
  exact ⟨resolved.sound, resolved.justified, resolved.resolved, ⟨_, resolved.grown⟩, rfl, rfl,
    rfl, rfl⟩

theorem importClasses_outcome (options : ImportOptions) (classpath : Classpath)
    (batch : List ClassInfo) :
    ∃ state, (importClasses options classpath batch).Outcome
      (options.sources classpath batch) batch state :=
  ⟨_, importClasses_outcome_lastState options classpath batch⟩

namespace Imported.Outcome

variable {sources : ImportSources} {batch : List ClassInfo} {imported : Imported}
variable {state : ImportState}

/-- After the classes of the batch, the table holds those that were loaded. -/
theorem exists_loaded (outcome : imported.Outcome sources batch state) :
    ∃ loaded, state.classes = (ImportState.ofBatch batch).classes ++ loaded ∧
      ∀ found ∈ loaded, found.origin = .classpath := by
  have ⟨gathered, _⟩ := ImportState.ofBatch_spec sources batch
  obtain ⟨touched, grown⟩ := outcome.grown
  obtain ⟨loaded, split⟩ := grown.classes
  refine ⟨loaded, split.symm, fun found listed => ?_⟩
  have member : found ∈ state.classes := by
    rw [← split]
    exact List.mem_append_right _ listed
  have means := outcome.sound.known found member
  rcases ImportSources.origin_of_classNamed? means with isBatch | isClasspath
  · -- A class of the batch was declared already, and no name is declared twice.
    rw [isBatch] at means
    obtain ⟨inBatch, -⟩ := ImportSources.mem_of_classNamed? means
    obtain ⟨other, present⟩ := Option.isSome_iff_exists.mp (gathered.covered _ inBatch)
    obtain ⟨otherMember, named⟩ := ImportState.mem_of_class? present
    have distinct := outcome.sound.distinct
    rw [← split, List.map_append, List.nodup_append'] at distinct
    exact absurd (List.mem_map_of_mem listed)
      (distinct.2.2 (List.mem_map.mpr ⟨other, otherMember, named⟩))
  · exact isClasspath

/-- The classes of the table that come from the batch. -/
theorem filter_imported (outcome : imported.Outcome sources batch state) :
    state.classes.filter (fun found => found.origin == .imported) =
      (ImportState.ofBatch batch).classes := by
  have ⟨gathered, _⟩ := ImportState.ofBatch_spec sources batch
  obtain ⟨loaded, split, origins⟩ := outcome.exists_loaded
  have kept : (ImportState.ofBatch batch).classes.filter (fun found => found.origin == .imported) =
      (ImportState.ofBatch batch).classes := by
    rw [List.filter_eq_self]
    intro found member
    rw [gathered.origins found member, beq_self_eq_true]
  have none : loaded.filter (fun found => found.origin == .imported) = [] := by
    rw [List.filter_eq_nil_iff]
    intro found member
    rw [origins found member]
    decide
  rw [split, List.filter_append, kept, none, List.append_nil]

/-- Where classes may not be loaded, the table holds the batch only. -/
theorem classes_eq_of_forbidden (outcome : imported.Outcome sources batch state)
    (forbidden : sources.fallback = false) :
    state.classes = (ImportState.ofBatch batch).classes := by
  obtain ⟨loaded, split, origins⟩ := outcome.exists_loaded
  have none : loaded = [] := by
    rw [List.eq_nil_iff_forall_not_mem]
    intro found listed
    have member : found ∈ state.classes := by
      rw [split]
      exact List.mem_append_right _ listed
    have asked := outcome.sound.loaded found member (origins found listed)
    have allowed := (outcome.sound.asked _ asked).1
    rw [forbidden] at allowed
    cases allowed
  rw [split, none, List.append_nil]

end Imported.Outcome

end JvmGenerics
