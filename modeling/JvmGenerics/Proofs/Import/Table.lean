import JvmGenerics.Import.Load
import JvmGenerics.Proofs.Import.Declaration
import JvmGenerics.Proofs.Import.Elements
import JvmGenerics.Proofs.Import.Lexical

/-!
# The table of an import

Every class of the table is as it was declared, under its own name, and the scopes of
the store are those of the classes in the order of the table. Both stay true whatever
an import does, and so does what the table says of a name that was asked for.
-/

namespace JvmGenerics

namespace DeclaredClass

theorem owner_of_mem_headers {declared : DeclaredClass} {header : ScopeHeader}
    (member : header ∈ declared.headers) : header.owner.className = declared.name := by
  simp only [headers, List.mem_append, Option.mem_toList, List.mem_flatMap,
    ClassGenerics.header?, DeclaredMethod.header?, Option.map_eq_some_iff] at member
  rcases member with ⟨scope, -, rfl⟩ | ⟨method, -, scope, -, rfl⟩ <;> rfl

theorem scopes_outline (declared : DeclaredClass) :
    declared.outline.scopes = declared.headers.map ScopeHeader.scope := by
  have methods : (declared.methods.filterMap fun method =>
      method.generics.scope.map fun scope => (method.info.key, scope)).map Prod.snd =
        (declared.methods.flatMap fun method => (method.header? declared.name).toList).map
          ScopeHeader.scope := by
    rw [List.filterMap_eq_flatMap_toList, List.map_flatMap, List.map_flatMap]
    refine List.flatMap_congr fun method _ => ?_
    cases scope : method.generics.scope <;> simp [DeclaredMethod.header?, scope]
  rw [Outline.scopes, headers, List.map_append, ← methods]
  cases scope : declared.generics.scope <;> simp [outline, ClassGenerics.header?, scope]

theorem find?_method (declared : DeclaredClass) (key : MethodKey) :
    (declared.headers.find? fun header => header.owner == .ofMethod declared.name key).map
      ScopeHeader.scope = declared.outline.methodScope? key := by
  have own : (declared.generics.header? declared.name).toList.find?
      (fun header => header.owner == .ofMethod declared.name key) = none := by
    simp only [List.find?_eq_none, Option.mem_toList, ClassGenerics.header?,
      Option.map_eq_some_iff]
    rintro header ⟨scope, -, rfl⟩
    simp
  rw [headers, List.find?_append, own, Option.none_or, Outline.methodScope?]
  simp only [outline]
  induction declared.methods with
  | nil => rfl
  | cons method rest ih =>
    rw [List.flatMap_cons, List.find?_append]
    cases scope : method.generics.scope with
    | none => simpa [DeclaredMethod.header?, scope] using ih
    | some found =>
      by_cases same : method.info.key = key
      · simp [DeclaredMethod.header?, scope, same]
      · simpa [DeclaredMethod.header?, scope, same] using ih

end DeclaredClass

/-- The table agrees with the store, every class in it stands as it was declared, and
the diagnostics are those of the declarations and the ones in `reported`. -/
structure ImportState.WellFormed (reported : List Diagnostic) (state : ImportState) : Prop where
  distinct : (state.classes.map DeclaredClass.name).Nodup
  declared : ∀ found ∈ state.classes, ∃ next, found = found.info.declaredAt found.origin next
  layout : state.store.headers = state.classes.flatMap DeclaredClass.headers
  diagnostics : state.diagnostics.Perm
    ((state.classes.flatMap fun found => found.info.declarationDiagnostics) ++ reported)
  defects : state.defects = []

/-- What a state keeps for all time: its classes, its requests, and its scopes without
their bounds. Only the scopes in `touched` may have got other bounds, and no request was
made twice. -/
structure ImportState.Grown (touched : List ScopeId) (before after : ImportState) : Prop where
  classes : before.classes <+: after.classes
  headers : before.store.headers <+: after.store.headers
  requests : before.requests ⊆ after.requests
  untouched : ∀ scope < before.store.scopes.length, scope ∉ touched →
    after.store.scope? scope = before.store.scope? scope
  unrepeated : before.requests.Nodup → after.requests.Nodup

namespace ImportState

namespace Grown

variable {touched : List ScopeId} {before middle after : ImportState}

theorem refl (touched : List ScopeId) (state : ImportState) : state.Grown touched state :=
  ⟨List.prefix_rfl, List.prefix_rfl, List.Subset.refl _, fun _ _ _ => rfl, id⟩

theorem scopes_le (grown : before.Grown touched after) :
    before.store.scopes.length ≤ after.store.scopes.length := by
  simpa using grown.headers.length_le

theorem trans (first : before.Grown touched middle) (second : middle.Grown touched after) :
    before.Grown touched after where
  classes := first.classes.trans second.classes
  headers := first.headers.trans second.headers
  requests := List.Subset.trans first.requests second.requests
  untouched scope bound fresh :=
    (second.untouched scope (Nat.lt_of_lt_of_le bound first.scopes_le) fresh).trans
      (first.untouched scope bound fresh)
  unrepeated := second.unrepeated ∘ first.unrepeated

theorem mono {more : List ScopeId} (grown : before.Grown touched after)
    (subset : touched ⊆ more) : before.Grown more after :=
  { grown with
    untouched := fun scope bound fresh =>
      grown.untouched scope bound fun member => fresh (subset member) }

theorem class?_eq_some (grown : before.Grown touched after) {name : String}
    {found : DeclaredClass} (present : before.class? name = some found) :
    after.class? name = some found :=
  grown.classes.find?_eq_some present

theorem class?_eq_none (grown : before.Grown touched after) {name : String}
    (absent : after.class? name = none) : before.class? name = none := by
  cases present : before.class? name with
  | none => rfl
  | some found => rw [grown.class?_eq_some present] at absent; cases absent

end Grown

variable {reported : List Diagnostic} {state : ImportState}

theorem mem_of_class? {name : String} {found : DeclaredClass}
    (present : state.class? name = some found) : found ∈ state.classes ∧ found.name = name :=
  ⟨List.mem_of_find?_eq_some present, by simpa using List.find?_some present⟩

theorem class?_eq_none_iff {name : String} :
    state.class? name = none ↔ name ∉ state.classes.map DeclaredClass.name := by
  simp [class?]

theorem WellFormed.class?_of_mem (wellFormed : state.WellFormed reported)
    {found : DeclaredClass} (member : found ∈ state.classes) :
    state.class? found.name = some found :=
  (find?_eq_some_iff_of_nodup wellFormed.distinct).mpr ⟨member, rfl⟩

end ImportState

namespace ImportState

variable {reported : List Diagnostic} {state : ImportState}

theorem owners_eq (state : ImportState) :
    state.owners = state.store.headers.map ScopeHeader.owner := by
  apply List.ext_getElem
  · simp [owners]
  · intro index first second
    simp [owners, TypeStore.headers]

namespace WellFormed

theorem exists_of_mem_owners (wellFormed : state.WellFormed reported) {owner : Owner}
    (member : owner ∈ state.owners) :
    ∃ found ∈ state.classes, found.name = owner.className := by
  rw [owners_eq, wellFormed.layout, List.mem_map] at member
  obtain ⟨header, listed, rfl⟩ := member
  obtain ⟨found, present, own⟩ := List.mem_flatMap.mp listed
  exact ⟨found, present, (DeclaredClass.owner_of_mem_headers own).symm⟩

theorem ne_of_class?_eq_none (wellFormed : state.WellFormed reported) {name : String}
    (absent : state.class? name = none) : ∀ owner ∈ state.owners, owner.className ≠ name := by
  intro owner member same
  obtain ⟨found, present, own⟩ := wellFormed.exists_of_mem_owners member
  exact class?_eq_none_iff.mp absent (List.mem_map.mpr ⟨found, present, own.trans same⟩)

theorem mem_headers (wellFormed : state.WellFormed reported) {found : DeclaredClass}
    (member : found ∈ state.classes) {header : ScopeHeader} (own : header ∈ found.headers) :
    header ∈ state.store.headers := by
  rw [wellFormed.layout]
  exact List.mem_flatMap.mpr ⟨found, member, own⟩

/-- The scope of a method of a class is found in the store by its owner. -/
theorem scopeOf?_method (wellFormed : state.WellFormed reported) {name : String}
    {found : DeclaredClass} (present : state.class? name = some found) (key : MethodKey) :
    state.store.scopeOf? (.ofMethod name key) = found.outline.methodScope? key := by
  obtain ⟨member, rfl⟩ := mem_of_class? present
  obtain ⟨before, after, split⟩ := List.append_of_mem member
  have elsewhere (others : List DeclaredClass)
      (different : ∀ other ∈ others, other.name ≠ found.name) :
      (others.flatMap DeclaredClass.headers).find?
        (fun header => header.owner == .ofMethod found.name key) = none := by
    rw [List.find?_eq_none]
    intro header listed same
    obtain ⟨other, present, own⟩ := List.mem_flatMap.mp listed
    apply different other present
    rw [← DeclaredClass.owner_of_mem_headers own, beq_iff_eq.mp same, Owner.className]
  have distinct := wellFormed.distinct
  rw [split, List.map_append, List.map_cons, List.nodup_middle, List.nodup_cons,
    List.mem_append, not_or] at distinct
  obtain ⟨⟨notBefore, notAfter⟩, -⟩ := distinct
  rw [TypeStore.scopeOf?_eq_find?, wellFormed.layout, split, List.flatMap_append,
    List.flatMap_cons, List.find?_append, List.find?_append,
    elsewhere before fun other listed same => notBefore (same ▸ List.mem_map_of_mem listed),
    elsewhere after fun other listed same => notAfter (same ▸ List.mem_map_of_mem listed),
    Option.none_or, Option.or_none, DeclaredClass.find?_method]

end WellFormed

theorem headers_adding (state : ImportState) (origin : Origin) (info : ClassInfo) :
    let declared := info.declaredAt origin state.store.scopes.length
    (state.adding declared).store.headers = state.store.headers ++ declared.headers :=
  headers_declaring (ClassInfo.scopes_declaredAt origin state.store.scopes.length info)
    info.declarationDiagnostics info.declarationEvents

theorem grown_adding (state : ImportState) (origin : Origin) (info : ClassInfo) :
    state.Grown [] (state.adding (info.declaredAt origin state.store.scopes.length)) where
  classes := List.prefix_append _ _
  headers := headers_adding state origin info ▸ List.prefix_append _ _
  requests := List.Subset.refl _
  untouched scope bound _ := by
    simp [adding, declaring, TypeStore.scope?, List.getElem?_append_left bound]
  unrepeated := id

theorem WellFormed.adding (wellFormed : state.WellFormed reported) (origin : Origin)
    {info : ClassInfo} (absent : state.class? info.name = none) :
    (state.adding (info.declaredAt origin state.store.scopes.length)).WellFormed reported where
  distinct := by
    have fresh := class?_eq_none_iff.mp absent
    simp only [ImportState.adding, List.map_append, List.map_cons, List.map_nil]
    rw [List.nodup_append]
    refine ⟨wellFormed.distinct, List.nodup_singleton _, ?_⟩
    intro name member other single same
    rw [List.mem_singleton] at single
    rw [same, single] at member
    exact fresh member
  declared found member := by
    rcases List.mem_append.mp member with member | single
    · exact wellFormed.declared found member
    · obtain rfl := List.mem_singleton.mp single
      exact ⟨state.store.scopes.length, rfl⟩
  layout := by
    rw [headers_adding, wellFormed.layout]
    simp [ImportState.adding]
  diagnostics := by
    simp only [ImportState.adding, declaring, List.flatMap_append, List.flatMap_cons,
      List.flatMap_nil, List.append_nil, List.append_assoc]
    have moved := wellFormed.diagnostics.append_right info.declarationDiagnostics
    rw [List.append_assoc] at moved
    exact moved.trans (List.perm_append_comm.append_left _)
  defects := wellFormed.defects

end ImportState

/-- The class that a name means in an import of `batch`: the first class of the batch
with that name, or else the class that the classpath finds under its own name, if
classes may be loaded. -/
def ImportSources.classNamed? (sources : ImportSources) (batch : List ClassInfo)
    (name : String) : Option (Origin × ClassInfo) :=
  match batch.find? fun info => info.name == name with
  | some info => some (.imported, info)
  | none =>
    if sources.fallback then
      ((sources.classpath.load name).filter fun info => info.name == name).map fun info =>
        (.classpath, info)
    else none

/-- The names that an import of `batch` comes to ask for: those of the batch, and what
the classes with such names need. -/
inductive ImportSources.Needed (sources : ImportSources) (batch : List ClassInfo) : String → Prop
  | batch {info : ClassInfo} : info ∈ batch → sources.Needed batch info.name
  | need {name other : String} {origin : Origin} {info : ClassInfo} :
      sources.Needed batch name → sources.classNamed? batch name = some (origin, info) →
        other ∈ info.needs → sources.Needed batch other

namespace ImportState

variable (sources : ImportSources) (batch : List ClassInfo)

/-- A well-formed state in which every class is the one that its name means, and in
which every name that was asked for in vain means no class. -/
structure Sound (reported : List Diagnostic) (state : ImportState) : Prop
    extends state.WellFormed reported where
  known : ∀ found ∈ state.classes,
    sources.classNamed? batch found.name = some (found.origin, found.info)
  covered : ∀ info ∈ batch, (state.class? info.name).isSome
  asked : ∀ name ∈ state.requests, sources.fallback = true ∧ (∀ info ∈ batch, info.name ≠ name) ∧
    (state.class? name = none → sources.classNamed? batch name = none)
  loaded : ∀ found ∈ state.classes, found.origin = .classpath → found.name ∈ state.requests

/-- What a name means is settled once the table has a class of that name, or the name
was asked for, or nothing may be asked for at all. -/
def Settled (state : ImportState) (name : String) : Prop :=
  (state.class? name).isSome ∨ sources.fallback = false ∨ name ∈ state.requests

/-- Nothing was declared or asked for without need. -/
structure Justified (state : ImportState) : Prop where
  classes : ∀ found ∈ state.classes, sources.Needed batch found.name
  requests : ∀ name ∈ state.requests, sources.Needed batch name

/-- A state that has grown by looking up the given names: all of them are settled, and
if they are needed, nothing else was declared or asked for. -/
structure Progress (names : List String) (touched : List ScopeId) (before after : ImportState) :
    Prop extends before.Grown touched after where
  settled : ∀ name ∈ names, after.Settled sources name
  justified : before.Justified sources batch → (∀ name ∈ names, sources.Needed batch name) →
    after.Justified sources batch

variable {sources batch} {reported : List Diagnostic} {state : ImportState}

theorem Settled.mono {touched : List ScopeId} {before after : ImportState} {name : String}
    (settled : before.Settled sources name) (grown : before.Grown touched after) :
    after.Settled sources name := by
  rcases settled with present | forbidden | asked
  · obtain ⟨found, present⟩ := Option.isSome_iff_exists.mp present
    exact Or.inl (Option.isSome_iff_exists.mpr ⟨found, grown.class?_eq_some present⟩)
  · exact Or.inr (Or.inl forbidden)
  · exact Or.inr (Or.inr (grown.requests asked))

/-- A name without a class in the table means no class, once that is settled. -/
theorem Sound.classNamed?_eq (sound : state.Sound sources batch reported) {name : String}
    (settled : state.Settled sources name) :
    sources.classNamed? batch name =
      (state.class? name).map fun found => (found.origin, found.info) := by
  cases present : state.class? name with
  | some found =>
    obtain ⟨member, rfl⟩ := mem_of_class? present
    exact sound.known found member
  | none =>
    rcases settled with isSome | forbidden | asked
    · simp [present] at isSome
    · have absent : batch.find? (fun info => info.name == name) = none := by
        rw [List.find?_eq_none]
        intro info member same
        have isSome := sound.covered info member
        rw [beq_iff_eq.mp same, present] at isSome
        cases isSome
      simp [ImportSources.classNamed?, absent, forbidden]
    · exact (sound.asked name asked).2.2 present

namespace Progress

variable {names more : List String} {touched : List ScopeId}
variable {before middle after : ImportState}

theorem refl (touched : List ScopeId) (state : ImportState) :
    state.Progress sources batch [] touched state :=
  ⟨Grown.refl touched state, by simp, fun justified _ => justified⟩

theorem trans (first : before.Progress sources batch names touched middle)
    (second : middle.Progress sources batch more touched after) :
    before.Progress sources batch (names ++ more) touched after where
  toGrown := first.toGrown.trans second.toGrown
  settled := List.forall_mem_append.mpr
    ⟨fun name member => (first.settled name member).mono second.toGrown, second.settled⟩
  justified justified needed := by
    rw [List.forall_mem_append] at needed
    exact second.justified (first.justified justified needed.1) needed.2

theorem mono {further : List ScopeId} (progress : before.Progress sources batch names touched after)
    (subset : touched ⊆ further) : before.Progress sources batch names further after :=
  ⟨progress.toGrown.mono subset, progress.settled, progress.justified⟩

end Progress

end ImportState

end JvmGenerics
