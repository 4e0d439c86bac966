import JvmGenerics.Proofs.Import.DroppedSignatures
import JvmGenerics.Proofs.Import.EventLog

/-!
# The table of published classes

The table of a result begins with the classes of the batch that count, in the order of the
batch, and goes on with the classes that were loaded, in the order in which they were asked
for. Classes of the batch that come second under their name are reported and leave no other
trace.
-/

namespace JvmGenerics

/-- The classes of a batch whose names do not come earlier in it. -/
def ClassInfo.firstsOf (batch : List ClassInfo) : List ClassInfo :=
  ((withEarlier batch).filter fun entry => entry.2.name ∉ entry.1.map ClassInfo.name).map Prod.snd

/-- Which names were seen after one class more: a name that repeats is not seen twice. -/
theorem ClassInfo.mem_seen_iff (seen : List String) (info : ClassInfo) (earlier : List ClassInfo)
    (name : String) : name ∈ seen ++ (info :: earlier).map ClassInfo.name ↔
      name ∈ (if info.name ∈ seen then seen else info.name :: seen) ++
        earlier.map ClassInfo.name := by
  rw [List.map_cons]
  split
  · next member =>
    simp only [List.mem_append, List.mem_cons]
    constructor
    · rintro (before | rfl | later)
      exacts [Or.inl before, Or.inl member, Or.inr later]
    · rintro (before | later)
      exacts [Or.inl before, Or.inr (Or.inr later)]
  · simp only [List.mem_append, List.mem_cons]
    tauto

/-- Classes that are selected by whether their names were seen, after one class more. -/
theorem ClassInfo.filter_withEarlier_cons (select : Bool → Bool) (seen : List String)
    (info : ClassInfo) (rest : List ClassInfo) :
    (((withEarlier rest).map (Prod.map (info :: ·) id)).filter fun entry =>
        select (decide (entry.2.name ∈ seen ++ entry.1.map ClassInfo.name))).map Prod.snd =
      ((withEarlier rest).filter fun entry => select (decide (entry.2.name ∈
        (if info.name ∈ seen then seen else info.name :: seen) ++
          entry.1.map ClassInfo.name))).map Prod.snd := by
  rw [List.filter_map, List.map_map]
  exact congrArg _ (List.filter_congr fun entry _ => congrArg select
    (decide_eq_decide.mpr (mem_seen_iff seen info entry.1 entry.2.name)))

theorem ClassInfo.firsts_eq_filter (seen : List String) (batch : List ClassInfo) :
    firsts seen batch = ((withEarlier batch).filter fun entry =>
      !decide (entry.2.name ∈ seen ++ entry.1.map ClassInfo.name)).map Prod.snd := by
  induction batch generalizing seen with
  | nil => rfl
  | cons info rest ih =>
    have later := filter_withEarlier_cons (! ·) seen info rest
    rw [firsts, withEarlier_cons]
    by_cases member : info.name ∈ seen
    · rw [if_pos member] at later
      rw [if_pos member, ih, List.filter_cons_of_neg (by simpa using member), later]
    · rw [if_neg member] at later
      rw [if_neg member, ih, List.filter_cons_of_pos (by simpa using member), List.map_cons,
        later]

theorem ClassInfo.firsts_eq (batch : List ClassInfo) : firsts [] batch = firstsOf batch := by
  rw [firsts_eq_filter, firstsOf]
  simp only [List.nil_append, decide_not]

/-- The classes of a result with their origins. -/
def Imported.entries (imported : Imported) : List (Origin × ClassInfo) :=
  imported.classes.map fun published => (published.origin, published.info)

namespace Imported.Outcome

variable {sources : ImportSources} {batch : List ClassInfo} {imported : Imported}
variable {state : ImportState}

theorem entries_eq (outcome : imported.Outcome sources batch state) :
    imported.entries = state.classes.map fun found => (found.origin, found.info) := by
  rw [entries, map_eq_map_iff_forall₂]
  refine outcome.resolved.flip.imp fun published declared resolved => ?_
  obtain ⟨chain, resolved⟩ := resolved
  rw [resolved.value]
  rfl

theorem nodup_names (outcome : imported.Outcome sources batch state) :
    (imported.classes.map ImportedClass.name).Nodup := by
  rw [outcome.names_eq]
  exact outcome.sound.distinct

/-- The table holds the classes of the batch that count, and then those that were found, in
the order of the requests. -/
theorem entries_eq_append (outcome : imported.Outcome sources batch state)
    (recorded : state.Recorded sources.classpath) :
    imported.entries = (ClassInfo.firstsOf batch).map (Origin.imported, ·) ++
      (imported.requests.filterMap sources.classpath.classOf?).map (Origin.classpath, ·) := by
  have ⟨gathered, infos⟩ := ImportState.ofBatch_spec sources batch
  obtain ⟨loaded, split, origins⟩ := outcome.exists_loaded
  have ofLoaded : loaded.map DeclaredClass.info =
      state.requests.filterMap sources.classpath.classOf? := by
    have found := recorded.loaded
    rw [split, List.filter_append, List.filter_eq_nil_iff.mpr, List.nil_append,
      List.filter_eq_self.mpr] at found
    · exact found
    · intro declared member
      rw [origins declared member, beq_self_eq_true]
    · intro declared member
      rw [gathered.origins declared member]
      decide
  rw [outcome.entries_eq, split, List.map_append, outcome.requests, ← ofLoaded,
    ← ClassInfo.firsts_eq, ← infos, List.map_map, List.map_map]
  congr 1
  · exact List.map_congr_left fun declared member => by
      rw [Function.comp_apply, gathered.origins declared member]
  · exact List.map_congr_left fun declared member => by
      rw [Function.comp_apply, origins declared member]

end Imported.Outcome

namespace Imported

variable {imported : Imported}

theorem contains_iff (name : String) :
    imported.contains name = true ↔ name ∈ imported.classes.map ImportedClass.name := by
  simp [contains, class?, List.find?_isSome]

theorem class?_eq_some_iff (distinct : (imported.classes.map ImportedClass.name).Nodup)
    (name : String) (published : ImportedClass) :
    imported.class? name = some published ↔
      published ∈ imported.classes ∧ published.name = name :=
  find?_eq_some_iff_of_nodup distinct

theorem info?_eq_some_iff (distinct : (imported.classes.map ImportedClass.name).Nodup)
    (name : String) (info : ClassInfo) :
    imported.info? name = some info ↔
      info ∈ imported.classes.map ImportedClass.info ∧ info.name = name := by
  simp only [info?, Option.map_eq_some_iff, class?_eq_some_iff distinct, List.mem_map]
  constructor
  · rintro ⟨published, ⟨member, named⟩, rfl⟩
    exact ⟨⟨published, member, rfl⟩, named⟩
  · rintro ⟨⟨published, member, rfl⟩, named⟩
    exact ⟨published, ⟨member, named⟩, rfl⟩

end Imported

namespace SignatureTexts

/-- No text may be left out. -/
def none : SignatureTexts :=
  ⟨fun _ => False, fun _ => False⟩

theorem unusable_none : none.Unusable :=
  ⟨fun _ => False.elim, fun _ => False.elim⟩

end SignatureTexts

theorem Forgotten.eq_of_none {signature other : Option String}
    (forgotten : Forgotten (fun _ => False) signature other) : other = signature := by
  rcases forgotten with same | ⟨-, _, -, absurd⟩
  · exact same
  · exact absurd.elim

theorem MethodInfo.Forgets.eq_of_none {info other : MethodInfo}
    (forgets : info.Forgets .none other) : other = info := by
  obtain ⟨key, signature⟩ := other
  obtain rfl : key = info.key := forgets.key
  obtain rfl : signature = info.signature := forgets.signature.eq_of_none
  rfl

theorem ClassInfo.Forgets.eq_of_none {info other : ClassInfo}
    (forgets : info.Forgets .none other) : other = info := by
  have methods : other.methods = info.methods := by
    rw [← List.forall₂_eq_eq_eq]
    exact forgets.methods.flip.imp fun _ _ same => same.eq_of_none
  obtain ⟨_, _, _, _, _, _⟩ := other
  obtain rfl := forgets.name
  obtain rfl := forgets.signature.eq_of_none
  obtain rfl := forgets.superclass
  obtain rfl := forgets.interfaces
  obtain rfl := forgets.enclosing
  obtain rfl := methods
  rfl

namespace Import

open ImportState

variable {sources others : ImportSources} {batch otherBatch : List ClassInfo}
variable {reported otherReported : List Diagnostic} {first second : ImportState}

/-- A batch is declared like the classes of it that count, apart from what is reported. -/
theorem declareBatch_lockstep_firsts (rest : List ClassInfo) {seen : List String}
    (gathered : first.Gathered sources batch reported)
    (otherGathered : second.Gathered others otherBatch otherReported)
    (lockstep : first.Lockstep .none second)
    (same : ∀ name, name ∈ seen ↔ (first.class? name).isSome) :
    ((rest.forM declareBatchClass).run first).2.Lockstep .none
      (((ClassInfo.firsts seen rest).forM declareBatchClass).run second).2 := by
  induction rest generalizing first second batch otherBatch reported otherReported seen with
  | nil => exact lockstep
  | cons info rest ih =>
    have step : ((info :: rest).forM declareBatchClass).run first =
        (rest.forM declareBatchClass).run ((declareBatchClass info).run first).2 := rfl
    rw [step, ClassInfo.firsts]
    cases present : first.class? info.name with
    | some found =>
      have isSome := Option.isSome_iff_exists.mpr ⟨found, present⟩
      rw [declareBatchClass_of_present present, if_pos ((same info.name).mpr isSome)]
      refine ih (gathered_repeating gathered isSome) otherGathered ⟨lockstep.classes,
        lockstep.requests, lockstep.diagnostics.trans (List.sublist_append_left _ _)⟩ same
    | none =>
      have fresh : info.name ∉ seen := fun seenBefore => by
        have isSome := (same info.name).mp seenBefore
        rw [present] at isSome
        cases isSome
      have found := lockstep.class? info.name
      rw [present] at found
      have otherAbsent := eq_none_of_rel found
      have otherStep : ((info :: ClassInfo.firsts (info.name :: seen) rest).forM
          declareBatchClass).run second =
            ((ClassInfo.firsts (info.name :: seen) rest).forM declareBatchClass).run
              ((declareBatchClass info).run second).2 := rfl
      rw [if_neg fresh, otherStep, declareBatchClass_of_absent present
        (gathered.toWellFormed.ne_of_class?_eq_none present),
        declareBatchClass_of_absent otherAbsent
          (otherGathered.toWellFormed.ne_of_class?_eq_none otherAbsent)]
      exact ih (gathered_adding gathered present) (gathered_adding otherGathered otherAbsent)
        (lockstep.adding SignatureTexts.unusable_none (ClassInfo.Forgets.refl _ info) .imported)
        (mem_seen_adding same info .imported _)

end Import

theorem ClassInfo.length_firsts_le (seen : List String) (batch : List ClassInfo) :
    (firsts seen batch).length ≤ batch.length := by
  rw [firsts_eq_filter, List.length_map]
  refine Nat.le_trans (List.length_filter_le _ _) ?_
  rw [← List.length_map Prod.snd, map_snd_withEarlier]

/-- An import of a batch ends like that of the classes of it that count, apart from what is
reported and logged. -/
theorem ImportOptions.lastState_lockstep_firsts (options : ImportOptions) (classpath : Classpath)
    (batch : List ClassInfo) :
    (options.lastState classpath batch).Lockstep .none
      (options.lastState classpath (ClassInfo.firsts [] batch)) := by
  let sources := options.sources classpath batch
  let others := options.sources classpath (ClassInfo.firsts [] batch)
  have ⟨gathered, _⟩ := ImportState.ofBatch_spec sources batch
  have ⟨otherGathered, _⟩ := ImportState.ofBatch_spec others (ClassInfo.firsts [] batch)
  have start : ImportState.start.Lockstep .none ImportState.start :=
    ⟨.nil, rfl, List.Sublist.refl []⟩
  have declared := Import.declareBatch_lockstep_firsts batch
    (ImportState.gathered_start sources) (ImportState.gathered_start others) start
    fun name => show name ∈ [] ↔ (ImportState.start.class? name).isSome by
      simp [ImportState.start, ImportState.class?]
  -- Fewer rounds would do for the classes that count, but more of them change nothing.
  have same : others.SameAnswers sources := ⟨rfl, fun _ => rfl⟩
  have limited : (ClassInfo.firsts [] batch).length + sources.classpath.names.length ≤
      sources.limit :=
    Nat.add_le_add_right (ClassInfo.length_firsts_le [] batch) _
  have rounds := Import.resolveFrom_run_eq same (Nat.le_refl _) limited others.limit sources.limit
    0 otherGathered.toSound (Nat.le_refl _) (Nat.le_refl _)
  have forgets : sources.Forgets .none sources := ⟨fun name => by
    cases sources.classpath.load name with
    | none => exact .none
    | some info => exact .some (ClassInfo.Forgets.refl _ info), rfl, rfl⟩
  rw [lastState, lastState, rounds]
  exact Import.resolveFrom_lockstep SignatureTexts.unusable_none forgets gathered.toSound
    (same.sound otherGathered.toSound) declared (Nat.le_refl _) limited _ 0

namespace Imported.Outcome

variable {sources others : ImportSources} {batch otherBatch : List ClassInfo}
variable {first second : Imported} {state later : ImportState}
variable (outcome : first.Outcome sources batch state)
variable (otherOutcome : second.Outcome others otherBatch later)
variable (lockstep : state.Lockstep .none later)
include outcome otherOutcome lockstep

/-- In lockstep with nothing left out, both tables are the same. -/
theorem tables_eq_of_lockstep : later.classes = state.classes := by
  rw [outcome.sound.classes_eq, otherOutcome.sound.classes_eq]
  refine congrArg (ClassInfo.declareEach 0) (map_eq_map_iff_forall₂.mpr ?_)
  exact lockstep.classes.flip.imp fun _ _ same => by rw [same.origin, same.info.eq_of_none]

/-- Nor is there a difference between the results, apart from what was reported. -/
theorem eq_of_lockstep : second.classes = first.classes ∧ second.store = first.store ∧
    second.requests = first.requests ∧ second.defects = first.defects := by
  have copies : List.Forall₂ (DeclaredClass.Copies id) state.classes later.classes := by
    rw [outcome.tables_eq_of_lockstep otherOutcome lockstep, List.forall₂_same]
    exact fun _ _ => ⟨rfl, rfl, rfl, rfl, rfl, rfl, List.forall₂_same.mpr fun _ _ => ⟨rfl, rfl⟩⟩
  have copied := outcome.copiedClasses otherOutcome copies rfl rfl
  have infos : List.Forall₂ (fun published other : ImportedClass => other.info = published.info)
      first.classes second.classes := by
    refine (map_eq_map_iff_forall₂.mp ?_).flip
    rw [outcome.infos_eq, otherOutcome.infos_eq,
      outcome.tables_eq_of_lockstep otherOutcome lockstep]
  refine ⟨?_, ?_, ?_, ?_⟩
  · rw [← List.forall₂_eq_eq_eq]
    refine forall₂_of_forall_mem (List.Forall₂.mp (fun _ _ copied info => And.intro copied info)
      copied infos).flip (fun other member => member) (fun published member => member) ?_
    rintro other published otherMember member ⟨copied, info⟩
    have methods : other.methods.map ImportedMethod.info =
        published.methods.map ImportedMethod.info := by
      rw [outcome.methods_eq member, otherOutcome.methods_eq otherMember, info]
    rw [copied.eq_mapOrigins info methods, ImportedClass.mapOrigins_id]
  · rw [outcome.store_eq_of_copies otherOutcome copies rfl rfl, TypeStore.mapOrigins_id]
  · rw [outcome.requests, otherOutcome.requests, lockstep.requests]
  · rw [outcome.defects, otherOutcome.defects, outcome.sound.defects,
      otherOutcome.sound.defects]

end Imported.Outcome

/-- The type parameters of a class are refused exactly if one of their names repeats. -/
theorem ClassInfo.exists_refused_iff (info : ClassInfo) :
    (∃ error, info.verdict = .refused error) ↔ ∃ text, info.signature = some text ∧
      SignatureTexts.repeating.ofClass text := by
  unfold verdict SignatureTexts.repeating
  cases signature : info.signature with
  | none => simp
  | some text =>
    cases parsed : Signature.parseClass text with
    | error error => simp [parsed]
    | ok kept => simp [parsed, Owner.exists_refused_iff]

/-- A class lacks its scope exactly if its type parameters were refused. -/
theorem Imported.Outcome.scope_eq_none_iff {sources : ImportSources} {batch : List ClassInfo}
    {imported : Imported} {state : ImportState} (outcome : imported.Outcome sources batch state)
    {published : ImportedClass} (member : published ∈ imported.classes) :
    published.scope = none ↔ ∃ text, published.info.signature = some text ∧
      SignatureTexts.repeating.ofClass text := by
  obtain ⟨declared, inTable, chain, resolved⟩ := outcome.exists_resolved member
  obtain ⟨next, shape⟩ := outcome.sound.declared declared inTable
  have generics : declared.generics = .ofVerdict next declared.info.verdict :=
    congrArg DeclaredClass.generics shape
  rw [resolved.value]
  change declared.generics.scope = none ↔ ∃ text, declared.info.signature = some text ∧ _
  rw [generics, ← ClassInfo.exists_refused_iff]
  cases declared.info.verdict <;> simp [ClassGenerics.ofVerdict, ClassGenerics.scope]

/-- No name is published twice: first come the classes of the batch that count, in the order
of the batch, then the classes that were found, in the order of the requests. Lookups by
name find exactly these, and classes of the batch that repeat a name change nothing but
reports. The store has the scopes of the classes in this order, each before those of its
methods, and only a class whose type parameters were refused has none. -/
theorem class_table (options : ImportOptions) (classpath : Classpath) (batch : List ClassInfo) :
    let imported := importClasses options classpath batch
    let once := importClasses options classpath (ClassInfo.firstsOf batch)
    (imported.classes.map ImportedClass.name).Nodup ∧
      imported.entries = (ClassInfo.firstsOf batch).map (Origin.imported, ·) ++
        (imported.requests.filterMap classpath.classOf?).map (Origin.classpath, ·) ∧
      (∀ name, imported.contains name = true ↔ name ∈ imported.classes.map ImportedClass.name) ∧
      (∀ name published, imported.class? name = some published ↔
        published ∈ imported.classes ∧ published.name = name) ∧
      (∀ name info, imported.info? name = some info ↔
        info ∈ imported.classes.map ImportedClass.info ∧ info.name = name) ∧
      (once.classes = imported.classes ∧ once.store = imported.store ∧
        once.requests = imported.requests ∧ once.defects = imported.defects) ∧
      imported.classes.flatMap ImportedClass.holders =
        (imported.store.scopes.mapIdx fun scope found => (scope, found.owner)) ∧
      ∀ published ∈ imported.classes, published.scope = none ↔
        ∃ text, published.info.signature = some text ∧ SignatureTexts.repeating.ofClass text := by
  intro imported once
  have outcome := importClasses_outcome_lastState options classpath batch
  have onceOutcome :=
    importClasses_outcome_lastState options classpath (ClassInfo.firsts [] batch)
  have distinct := outcome.nodup_names
  have lockstep := options.lastState_lockstep_firsts classpath batch
  have same := outcome.eq_of_lockstep onceOutcome lockstep
  rw [ClassInfo.firsts_eq] at same
  exact ⟨distinct, outcome.entries_eq_append (options.lastState_logs classpath batch).1,
    Imported.contains_iff, Imported.class?_eq_some_iff distinct,
    Imported.info?_eq_some_iff distinct, same, outcome.holders_eq,
    fun published member => outcome.scope_eq_none_iff member⟩

/-- `class Pair<T extends Base, T extends Base> extends Base`. The parser reads its signature,
but the type parameters are refused. -/
def ClassInfo.pair : ClassInfo :=
  ⟨"Pair", some "<T:LBase;T:LBase;>LBase;", some "Base", [], none, []⟩

/-- Another class `Box`, without a signature. -/
def ClassInfo.otherBox : ClassInfo :=
  ⟨"Box", none, none, [], none, []⟩

/-- The class `Pair` in the result of its import, where `Base` is loaded. -/
def ImportedClass.pair : ImportedClass :=
  ⟨.pair, .imported, none, ⟨some (.classRef ⟨"Base", 0, .classpath⟩), []⟩, []⟩

set_option maxRecDepth 20000 in
/-- The second `Box` leaves no trace in the table, `Base` is loaded for the first one, and
`Pair` has no scope. -/
theorem class_table_box :
    let imported := importClasses .standard (.ofClasses [.base]) [.box, .pair, .otherBox]
    imported.entries = [(.imported, .box), (.imported, .pair), (.classpath, .base)] ∧
      (importClasses .standard (.ofClasses [.base]) [.box, .pair]).classes = imported.classes ∧
      imported.info? "Box" = some .box ∧
      (.pair ∈ imported.classes ∧ ∃ text, ClassInfo.pair.signature = some text ∧
        SignatureTexts.repeating.ofClass text) := by
  intro imported
  obtain ⟨distinct, entries, -, -, infos, once, -, scopes⟩ :=
    class_table .standard (.ofClasses [.base]) [.box, .pair, .otherBox]
  have member : .pair ∈ imported.classes := by decide +kernel
  have firsts : ClassInfo.firstsOf [.box, .pair, .otherBox] = [.box, .pair] := by decide +kernel
  have found : imported.requests.filterMap (Classpath.ofClasses [.base]).classOf? = [.base] := by
    decide +kernel
  rw [firsts] at entries once
  rw [found] at entries
  refine ⟨entries, once.1, (infos "Box" .box).mpr ⟨?_, rfl⟩, member, ?_⟩
  · decide +kernel
  · exact (scopes .pair member).mp rfl

end JvmGenerics
