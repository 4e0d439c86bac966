import JvmGenerics.Types.Store
import Mathlib.Data.List.Induction
import Mathlib.Data.List.Nodup

/-!
# Scopes that stay as they are

Filling in bounds changes neither the owner of a scope nor the names of its
parameters, and declaring a scope changes no other scope. So the headers of a store,
which are its scopes without the bounds, only ever grow at their end, and what a
name means in a chain of scopes does not change with time.
-/

namespace JvmGenerics

/-- A scope with its number and without the bounds of its parameters. -/
structure ScopeHeader where
  scope : ScopeId
  owner : Owner
  names : List String
deriving DecidableEq

/-- A scope as it is declared: its parameters have no bounds yet. -/
def Scope.placeholder (owner : Owner) (names : List String) : Scope :=
  ⟨owner, names.map fun name => ⟨name, []⟩⟩

@[simp]
theorem Scope.names_placeholder (owner : Owner) (names : List String) :
    (Scope.placeholder owner names).names = names := by
  simp [Scope.placeholder, Scope.names, Function.comp_def]

theorem Scope.declares_iff (scope : Scope) (name : String) :
    scope.declares name = true ↔ name ∈ scope.names := by
  simp [Scope.declares, Scope.parameter?, Scope.names]

/-- The parameter of a given name in a scope that declares it. -/
theorem Scope.parameter?_of_mem {scope : Scope} {name : String} (member : name ∈ scope.names) :
    ∃ parameter ∈ scope.parameters, scope.parameter? name = some parameter := by
  rw [← Scope.declares_iff, Scope.declares, Option.isSome_iff_exists] at member
  obtain ⟨parameter, found⟩ := member
  exact ⟨parameter, List.mem_of_find?_eq_some found, found⟩

theorem firstRepeat_eq_none_iff (seen names : List String) :
    firstRepeat seen names = none ↔ names.Nodup ∧ ∀ name ∈ names, name ∉ seen := by
  induction names generalizing seen with
  | nil => simp [firstRepeat]
  | cons name rest ih =>
    by_cases member : name ∈ seen
    · simp [firstRepeat, member]
    · simp only [firstRepeat, member, if_false, ih, List.nodup_cons, List.mem_cons]
      grind

/-- Without names before it, a list has no repeat exactly if all its names are different. -/
theorem firstRepeat_nil_eq_none_iff (names : List String) :
    firstRepeat [] names = none ↔ names.Nodup := by
  simp [firstRepeat_eq_none_iff]

namespace TypeStore

/-- The scopes of a store without the bounds of their parameters. -/
def headers (store : TypeStore) : List ScopeHeader :=
  store.scopes.mapIdx fun scope found => ⟨scope, found.owner, found.names⟩

@[simp]
theorem length_headers (store : TypeStore) : store.headers.length = store.scopes.length :=
  List.length_mapIdx

theorem getElem?_headers (store : TypeStore) (scope : ScopeId) :
    store.headers[scope]? =
      (store.scope? scope).map fun found => ⟨scope, found.owner, found.names⟩ := by
  simp [headers, scope?]

theorem mem_headers {store : TypeStore} {header : ScopeHeader} :
    header ∈ store.headers ↔ ∃ found, store.scope? header.scope = some found ∧
      found.owner = header.owner ∧ found.names = header.names := by
  rw [List.mem_iff_getElem?]
  constructor
  · rintro ⟨scope, present⟩
    rw [getElem?_headers, Option.map_eq_some_iff] at present
    obtain ⟨found, present, rfl⟩ := present
    exact ⟨found, present, rfl, rfl⟩
  · rintro ⟨found, present, owner, names⟩
    refine ⟨header.scope, ?_⟩
    rw [getElem?_headers, present, Option.map_some, owner, names]

theorem map_scope_headers (store : TypeStore) :
    store.headers.map ScopeHeader.scope = List.range store.scopes.length := by
  apply List.ext_getElem
  · simp
  · intro index first second
    simp [headers]

theorem headers_append (scopes more : List Scope) :
    (TypeStore.mk (scopes ++ more)).headers = (TypeStore.mk scopes).headers ++
      more.mapIdx fun index found => ⟨index + scopes.length, found.owner, found.names⟩ := by
  simp [headers, List.mapIdx_append]

/-- Headers depend on the owners and the names of parameters only. -/
theorem headers_set {store : TypeStore} {scope : ScopeId} {found changed : Scope}
    (present : store.scope? scope = some found) (owner : changed.owner = found.owner)
    (names : changed.names = found.names) :
    (TypeStore.mk (store.scopes.set scope changed)).headers = store.headers := by
  apply List.ext_getElem?
  intro index
  rw [getElem?_headers, getElem?_headers]
  by_cases same : scope = index
  · subst same
    have bound := (List.getElem?_eq_some_iff.mp present).1
    rw [present]
    simp [scope?, List.getElem?_set_self bound, owner, names]
  · simp [scope?, List.getElem?_set_ne same]

theorem scopeOf?_eq_find? (store : TypeStore) (owner : Owner) :
    store.scopeOf? owner =
      (store.headers.find? fun header => header.owner == owner).map ScopeHeader.scope := by
  obtain ⟨scopes⟩ := store
  induction scopes using List.reverseRecOn with
  | nil => rfl
  | append_singleton scopes last ih =>
    simp only [scopeOf?] at ih
    rw [headers_append, List.find?_append]
    simp only [scopeOf?, List.findIdx?_append, ih]
    cases (TypeStore.mk scopes).headers.find? fun header => header.owner == owner with
    | some header => simp
    | none => by_cases same : last.owner = owner <;> simp [same]

/-- Whether a scope declares a name can be read off its header. -/
theorem any_declares_eq (store : TypeStore) (scope : ScopeId) (name : String) :
    ((store.scope? scope).any fun found => found.declares name) =
      (store.headers[scope]?).any fun header => decide (name ∈ header.names) := by
  rw [getElem?_headers]
  cases store.scope? scope with
  | none => rfl
  | some found =>
    rw [Option.map_some, Option.any_some, Option.any_some, Bool.eq_iff_iff, Scope.declares_iff]
    simp

theorem declare_of_fresh {store : TypeStore} {owner : Owner} {names : List String}
    (fresh : store.scopeOf? owner = none) (distinct : firstRepeat [] names = none) :
    store.declare owner names =
      .ok (store.scopes.length, ⟨store.scopes ++ [Scope.placeholder owner names]⟩) := by
  simp [declare, fresh, distinct, Scope.placeholder]

theorem declare_of_present {store : TypeStore} {owner : Owner} (names : List String)
    (present : (store.scopeOf? owner).isSome) :
    store.declare owner names = .error (.alreadyDeclared owner) := by
  simp [declare, present]

theorem declare_of_repeat {store : TypeStore} {owner : Owner} {names : List String}
    {name : String} (fresh : store.scopeOf? owner = none)
    (repeated : firstRepeat [] names = some name) :
    store.declare owner names = .error (.duplicateParameter owner name) := by
  simp [declare, fresh, repeated]

theorem define_of_declared {store : TypeStore} {scope : ScopeId} {found : Scope} {name : String}
    {bounds : List JavaType} (present : store.scope? scope = some found)
    (bounded : bounds ≠ []) (declared : name ∈ found.names) :
    store.define scope name bounds = .ok ⟨store.scopes.set scope { found with
      parameters := found.parameters.map fun parameter =>
        if parameter.name = name then { parameter with bounds := bounds } else parameter }⟩ := by
  have declares := (found.declares_iff name).mpr declared
  simp [define, present, bounded, declares]

theorem update_of_absent {parameters : List TypeParameter} {name : String}
    {bounds : List JavaType} (absent : name ∉ parameters.map TypeParameter.name) :
    (parameters.map fun parameter =>
      if parameter.name = name then { parameter with bounds := bounds } else parameter) =
        parameters := by
  refine (List.map_congr_left fun parameter member => if_neg ?_).trans (List.map_id parameters)
  rintro rfl
  exact absent (List.mem_map_of_mem member)

/-- Only one of the parameters of a scope has a given name. -/
theorem update_middle {front back : List TypeParameter} {name : String}
    {previous : List JavaType}
    (distinct : ((front ++ ⟨name, previous⟩ :: back).map TypeParameter.name).Nodup)
    (bounds : List JavaType) :
    ((front ++ ⟨name, previous⟩ :: back).map fun parameter =>
      if parameter.name = name then { parameter with bounds := bounds } else parameter) =
        front ++ ⟨name, bounds⟩ :: back := by
  rw [List.map_append, List.map_cons, List.nodup_middle, List.nodup_cons, List.mem_append,
    not_or] at distinct
  rw [List.map_append, List.map_cons, if_pos rfl, update_of_absent distinct.1.1,
    update_of_absent distinct.1.2]

/-- Filling in the bounds of the remaining parameters one after the other. -/
theorem defineEach_rest (complete : List TypeParameter) {remaining : List TypeParameter}
    {store : TypeStore} {scope : ScopeId} {found : Scope}
    {definitions : List (String × List JavaType)}
    (present : store.scope? scope = some found)
    (parameters : found.parameters = complete ++ remaining)
    (distinct : found.names.Nodup)
    (names : definitions.map Prod.fst = remaining.map TypeParameter.name)
    (bounded : ∀ definition ∈ definitions, definition.2 ≠ []) :
    store.defineEach scope definitions = (⟨store.scopes.set scope { found with
      parameters := complete ++ definitions.map fun definition =>
        ⟨definition.1, definition.2⟩ }⟩, none) := by
  induction definitions generalizing store found complete remaining with
  | nil =>
    have allComplete : remaining = [] := by simpa using names.symm
    have unchanged : store.scopes.set scope found = store.scopes := by
      obtain ⟨bound, entry⟩ := List.getElem?_eq_some_iff.mp present
      rw [← entry, List.set_getElem_self]
    simp [defineEach, ← parameters.trans (by rw [allComplete, List.append_nil]), unchanged]
  | cons definition rest ih =>
    obtain ⟨name, bounds⟩ := definition
    obtain ⟨previous, others, rfl, restNames⟩ : ∃ previous others,
        remaining = ⟨name, previous⟩ :: others ∧
          rest.map Prod.fst = others.map TypeParameter.name := by
      cases remaining with
      | nil => simp at names
      | cons next others =>
        rw [List.map_cons, List.map_cons, List.cons.injEq] at names
        obtain ⟨rfl, restNames⟩ := names
        exact ⟨next.bounds, others, rfl, restNames⟩
    rw [List.forall_mem_cons] at bounded
    have declared : name ∈ found.names := by simp [Scope.names, parameters]
    rw [Scope.names, parameters] at distinct
    have updated : (found.parameters.map fun parameter => if parameter.name = name then
        { parameter with bounds := bounds } else parameter) =
          (complete ++ [⟨name, bounds⟩]) ++ others := by
      rw [parameters, update_middle distinct, List.append_assoc]
      rfl
    have bound := (List.getElem?_eq_some_iff.mp present).1
    simp only [defineEach, define_of_declared present bounded.1 declared, updated]
    have updatedPresent : (TypeStore.mk (store.scopes.set scope ⟨found.owner,
        (complete ++ [⟨name, bounds⟩]) ++ others⟩)).scope? scope =
          some ⟨found.owner, (complete ++ [⟨name, bounds⟩]) ++ others⟩ := by
      simp [scope?, List.getElem?_set_self bound]
    rw [ih (complete ++ [⟨name, bounds⟩]) updatedPresent rfl ?_ restNames bounded.2]
    · simp
    · simpa [Scope.names] using distinct

/-- Filling in the bounds of all parameters of a scope is never refused. -/
theorem defineEach_complete (definitions : List (String × List JavaType)) {store : TypeStore}
    {scope : ScopeId} {found : Scope} (present : store.scope? scope = some found)
    (distinct : found.names.Nodup) (names : definitions.map Prod.fst = found.names)
    (bounded : ∀ definition ∈ definitions, definition.2 ≠ []) :
    store.defineEach scope definitions = (⟨store.scopes.set scope { found with
      parameters := definitions.map fun definition => ⟨definition.1, definition.2⟩ }⟩, none) :=
  defineEach_rest [] present rfl distinct names bounded

end TypeStore

theorem ScopeChain.resolve_append (inner outer : ScopeChain) (store : TypeStore)
    (name : String) : ScopeChain.resolve (inner ++ outer) store name =
      (inner.resolve store name).or (outer.resolve store name) :=
  List.find?_append

/-- What a name means in a chain of declared scopes is not changed by later scopes. -/
theorem ScopeChain.resolve_eq_of_prefix {first second : TypeStore}
    (grown : first.headers <+: second.headers) {chain : ScopeChain}
    (declared : ∀ scope ∈ chain, scope < first.scopes.length) (name : String) :
    chain.resolve second name = chain.resolve first name := by
  induction chain with
  | nil => rfl
  | cons scope rest ih =>
    have bound : scope < first.headers.length := by
      simpa using declared scope List.mem_cons_self
    have same := List.prefix_iff_getElem?.mp grown scope bound
    have tail := ih fun other member => declared other (List.mem_cons_of_mem scope member)
    simp only [ScopeChain.resolve, List.find?_cons, TypeStore.any_declares_eq] at tail ⊢
    rw [same, List.getElem?_eq_getElem bound, tail]

end JvmGenerics
