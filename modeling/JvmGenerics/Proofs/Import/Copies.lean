import JvmGenerics.Proofs.Import.Bounds
import JvmGenerics.Proofs.Import.Comparison
import JvmGenerics.Proofs.Import.Numbering

/-!
# Copies of a table

Two imports may end with the same classes under the same numbers, and differ only in the
origins of the classes and in data that no declaration kept. Then their results are the
same, types and store, up to that change of the origins.
-/

namespace JvmGenerics

/-- A method in two tables, with the same scope and signature left. -/
structure DeclaredMethod.Copies (method other : DeclaredMethod) : Prop where
  key : other.info.key = method.info.key
  generics : other.generics = method.generics

/-- A class in two tables, with the same scopes and signatures left, and another origin. -/
structure DeclaredClass.Copies (change : Origin → Origin) (declared other : DeclaredClass) :
    Prop where
  name : other.name = declared.name
  origin : other.origin = change declared.origin
  superclass : other.info.superclass = declared.info.superclass
  interfaces : other.info.interfaces = declared.info.interfaces
  enclosing : other.info.enclosing = declared.info.enclosing
  generics : other.generics = declared.generics
  methods : List.Forall₂ DeclaredMethod.Copies declared.methods other.methods

namespace DeclaredClass.Copies

variable {change : Origin → Origin} {declared other : DeclaredClass}

theorem headers_eq (copies : declared.Copies change other) : other.headers = declared.headers := by
  rw [headers, headers, copies.generics, copies.name]
  congr 1
  refine (flatMap_eq_of_forall₂ copies.methods fun method otherMethod same => ?_).symm
  rw [DeclaredMethod.header?, DeclaredMethod.header?, same.generics, same.key]

theorem outline_eq (copies : declared.Copies change other) : other.outline = declared.outline := by
  have methods : (other.methods.filterMap fun method =>
      method.generics.scope.map fun scope => (method.info.key, scope)) =
        declared.methods.filterMap fun method =>
          method.generics.scope.map fun scope => (method.info.key, scope) := by
    rw [List.filterMap_eq_flatMap_toList, List.filterMap_eq_flatMap_toList]
    refine (flatMap_eq_of_forall₂ copies.methods fun method otherMethod same => ?_).symm
    rw [same.generics, same.key]
  rw [outline, outline, copies.name, copies.enclosing, copies.generics, methods]

end DeclaredClass.Copies

/-- Classes that would be copies under any one number are copies if they are declared one
after the other. -/
theorem ClassInfo.declareEach_copies {change : Origin → Origin}
    {classes others : List (Origin × ClassInfo)}
    (same : List.Forall₂ (fun entry other => ∀ next, (entry.2.declaredAt entry.1 next).Copies change
      (other.2.declaredAt other.1 next)) classes others) (next : ScopeId) :
    List.Forall₂ (DeclaredClass.Copies change) (declareEach next classes)
      (declareEach next others) := by
  induction same generalizing next with
  | nil => exact .nil
  | cons head _ ih =>
    rw [declareEach, declareEach]
    refine .cons (head next) ?_
    rw [(head next).headers_eq]
    exact ih _

theorem ClassInfo.copies_declaredAt (change : Origin → Origin) (info : ClassInfo)
    (origin : Origin) (next : ScopeId) :
    (info.declaredAt origin next).Copies change (info.declaredAt (change origin) next) where
  name := rfl
  origin := rfl
  superclass := rfl
  interfaces := rfl
  enclosing := rfl
  generics := rfl
  methods := List.forall₂_same.mpr fun _ _ => ⟨rfl, rfl⟩

def Scope.mapOrigins (change : Origin → Origin) (scope : Scope) : Scope :=
  ⟨scope.owner, scope.parameters.map (TypeParameter.mapOrigins change)⟩

def TypeStore.mapOrigins (change : Origin → Origin) (store : TypeStore) : TypeStore :=
  ⟨store.scopes.map (Scope.mapOrigins change)⟩

def ImportedMethod.mapOrigins (change : Origin → Origin) (method : ImportedMethod) :
    ImportedMethod :=
  ⟨method.info, method.scope, method.types.mapOrigins change⟩

def ImportedClass.mapOrigins (change : Origin → Origin) (published : ImportedClass) :
    ImportedClass :=
  ⟨published.info, change published.origin, published.scope,
    published.supertypes.mapOrigins change,
    published.methods.map (ImportedMethod.mapOrigins change)⟩

theorem TypeStore.mapOrigins_id (store : TypeStore) : store.mapOrigins id = store := by
  have parameter : TypeParameter.mapOrigins id = id := funext TypeParameter.mapOrigins_id
  have scope : Scope.mapOrigins id = id := by
    funext scope
    simp [Scope.mapOrigins, parameter]
  simp [mapOrigins, scope]

theorem ImportedMethod.mapOrigins_id (method : ImportedMethod) : method.mapOrigins id = method := by
  rw [mapOrigins, MethodTypes.mapOrigins_id]

theorem ImportedClass.mapOrigins_id (published : ImportedClass) :
    published.mapOrigins id = published := by
  have method : ImportedMethod.mapOrigins id = id := funext ImportedMethod.mapOrigins_id
  rw [mapOrigins, Supertypes.mapOrigins_id, method, List.map_id]
  rfl

namespace Imported

/-- A method in two results, with the same types and parameters up to the origins. -/
structure CopiedMethod (change : Origin → Origin) (first second : Imported)
    (method other : ImportedMethod) : Prop where
  key : other.info.key = method.info.key
  scope : other.scope = method.scope
  parameters : second.parameters other.scope =
    (first.parameters method.scope).map (TypeParameter.mapOrigins change)
  types : other.types = method.types.mapOrigins change

/-- A class in two results, with the same types and parameters up to the origins. -/
structure CopiedClass (change : Origin → Origin) (first second : Imported)
    (published other : ImportedClass) : Prop where
  name : other.name = published.name
  origin : other.origin = change published.origin
  scope : other.scope = published.scope
  parameters : second.parameters other.scope =
    (first.parameters published.scope).map (TypeParameter.mapOrigins change)
  supertypes : other.supertypes = published.supertypes.mapOrigins change
  methods : List.Forall₂ (CopiedMethod change first second) published.methods other.methods

end Imported

/-- The scopes of a class and of its methods in a result. -/
def ImportedClass.scopes (imported : Imported) (published : ImportedClass) : List Scope :=
  published.holders.map fun holder => ⟨holder.2, imported.store.parameters holder.1⟩

/-- The scope of an element in a result, if it has one. -/
def Imported.scopeOf (imported : Imported) (owner : Owner) (scope : Option ScopeId) : List Scope :=
  (scope.map fun found => Scope.mk owner (imported.store.parameters found)).toList

theorem ImportedClass.scopes_eq (imported : Imported) (published : ImportedClass) :
    published.scopes imported = imported.scopeOf (.ofClass published.name) published.scope ++
      published.methods.flatMap fun method =>
        imported.scopeOf (.ofMethod published.name method.info.key) method.scope := by
  have element (scope : Option ScopeId) (owner : Owner) :
      (scope.map fun found => (found, owner)).toList.map
        (fun holder => Scope.mk holder.2 (imported.store.parameters holder.1)) =
          imported.scopeOf owner scope := by
    cases scope <;> rfl
  rw [scopes, holders, List.map_append, List.map_flatMap, element]
  simp only [element]

/-- The store of a result follows from its classes. -/
theorem Imported.Outcome.scopes_eq {sources : ImportSources} {batch : List ClassInfo}
    {imported : Imported} {state : ImportState} (outcome : imported.Outcome sources batch state) :
    imported.store.scopes = imported.classes.flatMap (ImportedClass.scopes imported) := by
  have scopes : imported.classes.flatMap (ImportedClass.scopes imported) =
      (imported.classes.flatMap ImportedClass.holders).map fun holder =>
        ⟨holder.2, imported.store.parameters holder.1⟩ :=
    List.map_flatMap.symm
  rw [scopes, outcome.holders_eq]
  apply List.ext_getElem
  · simp
  · intro scope bound _
    simp [TypeStore.parameters, TypeStore.scope?, List.getElem?_eq_getElem bound]

namespace Imported

variable {change : Origin → Origin} {first second : Imported}

theorem map_change_of_alike {firsts seconds : List TypeParameter}
    (alike : List.Forall₂ (TypeParameter.Alike (fun _ origin other => other = change origin)
      fun _ => Eq) firsts seconds) :
    seconds = firsts.map (TypeParameter.mapOrigins change) := by
  rw [← List.forall₂_eq_eq_eq, List.forall₂_map_right_iff]
  exact alike.flip.imp fun _ _ same => TypeParameter.eq_mapOrigins same

/-- A copy of a class with the same data is the class itself, up to the origins. -/
theorem CopiedClass.eq_mapOrigins {published other : ImportedClass}
    (copied : CopiedClass change first second published other)
    (info : other.info = published.info)
    (methods : other.methods.map ImportedMethod.info = published.methods.map ImportedMethod.info) :
    other = published.mapOrigins change := by
  have infos : List.Forall₂ (fun method otherMethod : ImportedMethod =>
      otherMethod.info = method.info) published.methods other.methods :=
    (map_eq_map_iff_forall₂.mp methods).flip
  have same : other.methods = published.methods.map (ImportedMethod.mapOrigins change) := by
    rw [← List.forall₂_eq_eq_eq, List.forall₂_map_right_iff]
    refine (List.Forall₂.mp (fun method otherMethod info copied => ?_) infos copied.methods).flip
    change otherMethod = method.mapOrigins change
    obtain ⟨_, _, _⟩ := otherMethod
    rw [ImportedMethod.mapOrigins, ← info, ← copied.scope, ← copied.types]
  obtain ⟨_, _, _, _, _⟩ := other
  rw [ImportedClass.mapOrigins, ← info, ← copied.origin, ← copied.scope, ← copied.supertypes,
    ← same]

theorem scopeOf_mapOrigins (owner : Owner) {scope other : Option ScopeId} (same : other = scope)
    (parameters : second.parameters other =
      (first.parameters scope).map (TypeParameter.mapOrigins change)) :
    second.scopeOf owner other = (first.scopeOf owner scope).map (Scope.mapOrigins change) := by
  obtain rfl := same
  cases other with
  | none => rfl
  | some found => exact congrArg (fun parameters => [Scope.mk owner parameters]) parameters

theorem CopiedClass.scopes_eq {published other : ImportedClass}
    (copied : CopiedClass change first second published other) :
    other.scopes second = (published.scopes first).map (Scope.mapOrigins change) := by
  rw [ImportedClass.scopes_eq, ImportedClass.scopes_eq, List.map_append, List.map_flatMap,
    copied.name, scopeOf_mapOrigins _ copied.scope copied.parameters]
  congr 1
  refine (flatMap_eq_of_forall₂ copied.methods fun method otherMethod same => ?_).symm
  rw [same.key, scopeOf_mapOrigins _ same.scope same.parameters]

end Imported

namespace DeclaredClass.Copies

variable {state later : ImportState} {change : Origin → Origin}
variable (copies : List.Forall₂ (DeclaredClass.Copies change) state.classes later.classes)
include copies

theorem rel_class? (name : String) :
    Option.Rel (DeclaredClass.Copies change) (state.class? name) (later.class? name) :=
  rel_find? copies fun _ _ same => by rw [same.name]

theorem outline?_eq : later.outline? = state.outline? := by
  funext name
  rw [ImportState.outline?, ImportState.outline?]
  have same := rel_class? copies name
  generalize state.class? name = declared, later.class? name = other at same
  cases same with
  | none => rfl
  | some same => exact congrArg some same.outline_eq

end DeclaredClass.Copies

namespace Imported.Outcome

section Pair

variable {sources others : ImportSources} {batch otherBatch : List ClassInfo}
variable {first second : Imported} {state later : ImportState} {change : Origin → Origin}
variable (outcome : first.Outcome sources batch state)
variable (otherOutcome : second.Outcome others otherBatch later)
variable (copies : List.Forall₂ (DeclaredClass.Copies change) state.classes later.classes)
include outcome otherOutcome copies

theorem headers_eq_of_copies : second.store.headers = first.store.headers := by
  rw [outcome.store, otherOutcome.store, outcome.sound.layout, otherOutcome.sound.layout]
  exact (flatMap_eq_of_forall₂ copies fun _ _ same => same.headers_eq.symm).symm

theorem originOf_of_copies (unresolved : change .unresolved = .unresolved) (name : String) :
    second.originOf name = change (first.originOf name) :=
  outcome.originOf_through otherOutcome (fun origin other => other = change origin)
    (DeclaredClass.Copies.rel_class? copies name) unresolved.symm fun _ _ same => same.origin

theorem alikeIn_of_copies (unresolved : change .unresolved = .unresolved) {chain : ScopeChain}
    (visible : ∀ scope ∈ chain, scope < state.store.scopes.length) :
    AlikeIn (fun _ origin other => other = change origin) (fun _ => Eq) first second chain
      chain where
  origin := outcome.originOf_of_copies otherOutcome copies unresolved
  scope name := by
    have headers := outcome.headers_eq_of_copies otherOutcome copies
    refine (ScopeChain.resolve_eq_of_prefix (headers ▸ List.prefix_rfl) ?_ name).symm
    rwa [outcome.store]

/-- The chain of a class is the same in both tables. -/
theorem chain_eq_of_copies {declared other : DeclaredClass}
    (same : declared.Copies change other) {published otherPublished : ImportedClass}
    {chain otherChain : ScopeChain}
    (resolved : state.Resolved sources batch chain declared published)
    (otherResolved : later.Resolved others otherBatch otherChain other otherPublished) :
    otherChain = chain := by
  have lexical := outcome.lexical resolved
  have otherLexical := otherOutcome.lexical otherResolved
  rw [DeclaredClass.Copies.outline?_eq copies, same.outline_eq] at otherLexical
  exact otherLexical.unique lexical

theorem copiedClass (unresolved : change .unresolved = .unresolved)
    (primitive : change .primitive = .primitive) {declared other : DeclaredClass}
    (member : declared ∈ state.classes) (otherMember : other ∈ later.classes)
    (same : declared.Copies change other) {published otherPublished : ImportedClass}
    {chain otherChain : ScopeChain}
    (resolved : state.Resolved sources batch chain declared published)
    (otherResolved : later.Resolved others otherBatch otherChain other otherPublished) :
    CopiedClass change first second published otherPublished := by
  obtain rfl := outcome.chain_eq_of_copies otherOutcome copies same resolved otherResolved
  have places {chain : ScopeChain} (visible : ∀ scope ∈ chain, scope < state.store.scopes.length) :=
    outcome.alikeIn_of_copies otherOutcome copies unresolved visible
  have pair : ClassPair (fun _ origin other => other = change origin) (fun _ => Eq) first second
      otherChain otherChain declared other := by
    refine ⟨same.superclass, same.interfaces, by rw [same.generics], places resolved.visible, ?_⟩
    refine forall₂_of_forall_mem same.methods (fun method own => own) (fun _ _ => trivial)
      fun method otherMethod own _ copied => ⟨copied.key, by rw [copied.generics], ?_⟩
    rw [copied.generics]
    exact places (outcome.sound.visible_method member own resolved.visible)
  have alike := outcome.alikeClass (fun _ => primitive.symm) otherOutcome member otherMember
    resolved otherResolved pair
  refine ⟨?_, ?_, ?_, map_change_of_alike alike.parameters,
    Supertypes.eq_mapOrigins alike.supertypes, ?_⟩
  · rw [resolved.value, otherResolved.value]
    exact same.name
  · rw [resolved.value, otherResolved.value]
    exact same.origin
  · rw [resolved.value, otherResolved.value]
    exact congrArg ClassGenerics.scope same.generics
  · have methods := alike.methods
    rw [resolved.value, otherResolved.value] at methods ⊢
    refine forall₂_map_iff.mpr (List.Forall₂.mp (fun method otherMethod copied alike => ?_)
      same.methods (forall₂_map_iff.mp methods))
    exact ⟨copied.key, congrArg MethodGenerics.scope copied.generics,
      map_change_of_alike alike.parameters, MethodTypes.eq_mapOrigins alike.types⟩

theorem copiedClasses (unresolved : change .unresolved = .unresolved)
    (primitive : change .primitive = .primitive) :
    List.Forall₂ (CopiedClass change first second) first.classes second.classes :=
  outcome.forall₂_classes otherOutcome copies fun member otherMember same resolved
    otherResolved => outcome.copiedClass otherOutcome copies unresolved primitive member
      otherMember same resolved otherResolved

theorem store_eq_of_copies (unresolved : change .unresolved = .unresolved)
    (primitive : change .primitive = .primitive) :
    second.store = first.store.mapOrigins change := by
  have copied := outcome.copiedClasses otherOutcome copies unresolved primitive
  have scopes : second.store.scopes = first.store.scopes.map (Scope.mapOrigins change) := by
    rw [outcome.scopes_eq, otherOutcome.scopes_eq, List.map_flatMap]
    exact (flatMap_eq_of_forall₂ copied fun _ _ same => same.scopes_eq.symm).symm
  exact congrArg TypeStore.mk scopes

end Pair

end Imported.Outcome

end JvmGenerics
