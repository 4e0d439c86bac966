import JvmGenerics.Proofs.Related
import JvmGenerics.Proofs.Types.IndexedStore
import JvmGenerics.Proofs.Types.Questions
import Mathlib.Data.List.Nodup
import Mathlib.Logic.Function.Basic

/-!
# Resolving and completing parameters in any order

Type parameters are declared before their bounds are known, because these may refer to any of
them. That is sound since resolution asks a store only which names its scopes declare. What a
name means in a chain of scopes stays as it is when bounds are filled in or further scopes are
declared, and so it does not matter which parameter is resolved or completed first.
-/

namespace JvmGenerics

theorem IndexedStore.headers_prefix {store : IndexedStore} (invariant : store.Invariant)
    (calls : List StoreCall) : store.toStore.headers <+:
      ((calls.mapM StoreCall.perform).run store).2.toStore.headers := by
  rw [(performEach calls invariant).2]
  exact List.prefix_append _ _

namespace Surroundings

theorem ofPool_eq_of_prefix (isKnown : String → Bool) {first second : TypeStore}
    (grown : first.headers <+: second.headers) {chain : ScopeChain}
    (visible : ∀ scope ∈ chain, scope < first.scopes.length) :
    ofPool isKnown second chain = ofPool isKnown first chain := by
  have same : chain.resolve second = chain.resolve first :=
    funext (ScopeChain.resolve_eq_of_prefix grown visible)
  simp only [ofPool, same]

/-- Make the first batch of calls that are left to be made. -/
def callBatch : StateM (IndexedStore × List (List StoreCall)) Unit :=
  modify fun (store, batches) =>
    match batches with
    | [] => (store, [])
    | calls :: rest => (((calls.mapM StoreCall.perform).run store).2, rest)

/-- A place in a store to which calls are made meanwhile, a batch of them before each answer. An
answer may itself be the reason for them, if a class is loaded for it and declares its scopes. -/
def amidCalls (isKnown : String → Bool) (chain : ScopeChain) :
    Surroundings (StateM (IndexedStore × List (List StoreCall))) where
  originOf name := do
    callBatch
    return ((ofPool isKnown (← get).1.toStore chain).originOf name).run
  declaringScope name := do
    callBatch
    return ((ofPool isKnown (← get).1.toStore chain).declaringScope name).run

/-- The store has all that an earlier store had, except perhaps for the bounds. -/
def HasGrown (first : TypeStore) (state : IndexedStore × List (List StoreCall)) : Prop :=
  state.1.Invariant ∧ first.headers <+: state.1.toStore.headers

theorem hasGrown_callBatch {first : TypeStore} {state : IndexedStore × List (List StoreCall)}
    (grown : HasGrown first state) : HasGrown first (callBatch.run state).2 := by
  obtain ⟨store, batches⟩ := state
  cases batches with
  | nil => exact grown
  | cons calls rest =>
    exact ⟨(IndexedStore.performEach calls grown.1).1,
      grown.2.trans (IndexedStore.headers_prefix grown.1 calls)⟩

/-- Calls that are made while a type is resolved change no answer. -/
theorem amidCalls_answersLike (isKnown : String → Bool) {first : TypeStore} {chain : ScopeChain}
    (visible : ∀ scope ∈ chain, scope < first.scopes.length) :
    (amidCalls isKnown chain).AnswersLike (ofPool isKnown first chain) (HasGrown first) where
  originOf _ _ := rfl
  declaringScope grown name :=
    ScopeChain.resolve_eq_of_prefix (hasGrown_callBatch grown).2 visible name
  ask grown question := by
    cases question with
    | origin name => exact hasGrown_callBatch grown
    | scope name => exact hasGrown_callBatch grown

end Surroundings

/-- A type parameter in a store. -/
structure ParameterId where
  scope : ScopeId
  name : String
deriving DecidableEq

section Filling

variable {fill : ParameterId → Option (List JavaType)} {target : ParameterId}
variable {bounds : List JavaType}

/-- The scope of a given number with new bounds for some of its parameters. -/
def Scope.filled (scope : ScopeId) (fill : ParameterId → Option (List JavaType)) (found : Scope) :
    Scope :=
  { found with parameters := found.parameters.map fun parameter =>
      { parameter with bounds := (fill ⟨scope, parameter.name⟩).getD parameter.bounds } }

@[simp]
theorem Scope.names_filled (scope : ScopeId) (fill : ParameterId → Option (List JavaType))
    (found : Scope) :
    (found.filled scope fill).names = found.names := by
  simp [filled, names, Function.comp_def]

theorem Scope.filled_update (fill : ParameterId → Option (List JavaType)) (target : ParameterId)
    (bounds : List JavaType) (found : Scope) :
    found.filled target.scope (Function.update fill target (some bounds)) =
      ⟨found.owner, (found.filled target.scope fill).parameters.map fun parameter =>
        if parameter.name = target.name then { parameter with bounds := bounds } else parameter⟩ := by
  rw [filled, filled, List.map_map]
  congr 1
  refine List.map_congr_left fun parameter _ => ?_
  by_cases same : parameter.name = target.name
  · simp [same]
  · have other : (⟨target.scope, parameter.name⟩ : ParameterId) ≠ target :=
      fun equal => same (congrArg ParameterId.name equal)
    simp [same, Function.update_of_ne other]

/-- Filling in a parameter leaves the other scopes as they are. -/
theorem Scope.filled_update_of_ne {scope : ScopeId} (other : target.scope ≠ scope) :
    Scope.filled scope (Function.update fill target (some bounds)) = Scope.filled scope fill := by
  have others (name : String) : (⟨scope, name⟩ : ParameterId) ≠ target :=
    fun equal => other (congrArg ParameterId.scope equal).symm
  funext found
  simp only [filled, Function.update_of_ne (others _)]

namespace IndexedStore

variable {store : IndexedStore}

/-- The store with new bounds for some of its parameters. -/
def filled (store : IndexedStore) (fill : ParameterId → Option (List JavaType)) : IndexedStore :=
  { store with scopes := store.scopes.mapIdx fun scope found => found.filled scope fill }

theorem getElem?_filled (store : IndexedStore) (fill : ParameterId → Option (List JavaType))
    (scope : ScopeId) :
    (store.filled fill).scopes[scope]? = (store.scopes[scope]?).map (Scope.filled scope fill) :=
  List.getElem?_mapIdx

theorem filled_none (store : IndexedStore) : store.filled (fun _ => none) = store := by
  have scopes : (store.filled fun _ => none).scopes = store.scopes := by
    apply List.ext_getElem?
    intro scope
    have unchanged : Scope.filled scope (fun _ => none) = fun found => found := by
      funext found
      simp [Scope.filled]
    rw [getElem?_filled, unchanged, Option.map_id']
  exact congrArg (IndexedStore.mk · store.numbers) scopes

theorem headers_filled (store : IndexedStore) (fill : ParameterId → Option (List JavaType)) :
    (store.filled fill).toStore.headers = store.toStore.headers := by
  simp [TypeStore.headers, toStore, filled, Scope.filled, Scope.names, List.mapIdx_mapIdx,
    Function.comp_def]

theorem scopes_filled_update {found : Scope} (present : store.scopes[target.scope]? = some found) :
    (store.filled (Function.update fill target (some bounds))).scopes =
      (store.filled fill).scopes.set target.scope
        (found.filled target.scope (Function.update fill target (some bounds))) := by
  have within : target.scope < (store.filled fill).scopes.length := by
    simpa [filled] using (List.getElem?_eq_some_iff.mp present).1
  apply List.ext_getElem?
  intro scope
  rw [getElem?_filled]
  by_cases same : target.scope = scope
  · subst same
    rw [List.getElem?_set_self within, present, Option.map_some]
  · rw [List.getElem?_set_ne same, getElem?_filled, Scope.filled_update_of_ne same]

/-- Filling in one more parameter of a store in which others are filled in already. -/
theorem define_filled (fill : ParameterId → Option (List JavaType)) (target : ParameterId)
    {found : Scope} (present : store.scopes[target.scope]? = some found)
    (distinct : found.names.Nodup) (declared : target.name ∈ found.names) (bounded : bounds ≠ []) :
    (StoreCall.define target.scope target.name bounds).perform.run (store.filled fill) =
      (.defined, store.filled (Function.update fill target (some bounds))) := by
  have current := getElem?_filled store fill target.scope
  rw [present, Option.map_some] at current
  have defines := defines_perform (store.filled fill) target.scope target.name bounds
  generalize (StoreCall.define target.scope target.name bounds).perform.run (store.filled fill) = outcome
    at defines ⊢
  cases defines with
  | unknownScope absent => cases current.symm.trans absent
  | noBounds known unbounded => exact absurd unbounded bounded
  | undeclared known _ absent =>
    obtain rfl := Option.some.inj (current.symm.trans known)
    rw [Scope.names_filled] at absent
    exact absurd declared absent
  | @defined owner front back previous known _ =>
    have before := Option.some.inj (current.symm.trans known)
    have owners : found.owner = owner := congrArg Scope.owner before
    rw [← Scope.names_filled target.scope fill, before] at distinct
    have after := Scope.filled_update fill target bounds found
    rw [before, owners, TypeStore.update_middle distinct] at after
    rw [← after, ← scopes_filled_update present]
    rfl

end IndexedStore

end Filling

/-- A declared type parameter with the scopes that are visible from it. -/
structure Completion where
  scope : ScopeId
  parameter : Signature.TypeParameter
  chain : ScopeChain

namespace Completion

/-- The parameter of the store that is completed. -/
def target (task : Completion) : ParameterId :=
  ⟨task.scope, task.parameter.name⟩

/-- The store declares the parameter and all scopes that are visible from it. -/
structure Fits (task : Completion) (store : IndexedStore) : Prop where
  declared : ∃ found, store.scopes[task.scope]? = some found ∧ task.parameter.name ∈ found.names
  visible : ∀ scope ∈ task.chain, scope < store.scopes.length

/-- The bounds of the parameter, as they are resolved in a store. -/
def boundsIn (isKnown : String → Bool) (store : IndexedStore) (task : Completion) :
    List JavaType :=
  ((Surroundings.ofPool isKnown store.toStore task.chain).bounds task.parameter).run

/-- The bounds of the parameters of some tasks, as they are resolved in a store. -/
def boundsOf (isKnown : String → Bool) (store : IndexedStore) (tasks : List Completion)
    (target : ParameterId) : Option (List JavaType) :=
  (tasks.find? fun task => task.target == target).map (boundsIn isKnown store)

variable {isKnown : String → Bool} {store : IndexedStore} {tasks : List Completion}
variable {task : Completion}

theorem boundsIn_filled (fits : task.Fits store) (fill : ParameterId → Option (List JavaType)) :
    task.boundsIn isKnown (store.filled fill) = task.boundsIn isKnown store := by
  have grown : store.toStore.headers <+: (store.filled fill).toStore.headers :=
    IndexedStore.headers_filled store fill ▸ List.prefix_rfl
  rw [boundsIn, boundsIn, Surroundings.ofPool_eq_of_prefix isKnown grown fits.visible]

theorem boundsIn_ne_nil (isKnown : String → Bool) (store : IndexedStore) (task : Completion) :
    task.boundsIn isKnown store ≠ [] :=
  Surroundings.bounds_ne_nil _ task.parameter

theorem boundsOf_cons (isKnown : String → Bool) (store : IndexedStore) (task : Completion)
    (tasks : List Completion) : boundsOf isKnown store (task :: tasks) =
      Function.update (boundsOf isKnown store tasks) task.target
        (some (task.boundsIn isKnown store)) := by
  funext target
  rw [boundsOf, List.find?_cons]
  by_cases same : task.target = target
  · subst same
    simp
  · rw [beq_eq_false_iff_ne.mpr same, Function.update_of_ne (Ne.symm same)]
    rfl

/-- The order of the tasks does not matter, nor whether a task is repeated. -/
theorem boundsOf_congr {others : List Completion} (distinct : (tasks.map target).Nodup)
    (same : ∀ task, task ∈ others ↔ task ∈ tasks) :
    boundsOf isKnown store others = boundsOf isKnown store tasks := by
  funext target
  rw [boundsOf, boundsOf]
  congr 1
  cases search : others.find? fun task => task.target == target with
  | none =>
    refine (List.find?_eq_none.mpr fun task member => ?_).symm
    exact List.find?_eq_none.mp search task ((same task).mpr member)
  | some task =>
    have here : task.target = target := by simpa using List.find?_some search
    have member := (same task).mp (List.mem_of_find?_eq_some search)
    exact ((find?_eq_some_iff_of_nodup distinct).mpr ⟨member, here⟩).symm

end Completion

/-- The bounds of a parameter are resolved and kept, or those that were kept are filled in. -/
inductive CompletionStep
  | resolve (task : Completion)
  | complete (task : Completion)

/-- A store and the bounds that have been resolved, the latest first. -/
structure Progress where
  store : IndexedStore
  resolved : List (ParameterId × List JavaType)

namespace CompletionStep

def task : CompletionStep → Completion
  | resolve task => task
  | complete task => task

/-- A step, with the answer of the store if it was called. -/
def perform (isKnown : String → Bool) : CompletionStep → StateM Progress (Option StoreAnswer)
  | resolve task => do
    let bounds := task.boundsIn isKnown (← get).store
    modify fun progress => { progress with resolved := (task.target, bounds) :: progress.resolved }
    return none
  | complete task => do
    let some bounds := (← get).resolved.lookup task.target | return none
    let call := StoreCall.define task.scope task.parameter.name bounds
    let (answer, store) := call.perform.run (← get).store
    modify fun progress => { progress with store := store }
    return some answer

/-- What a step comes to if it succeeds. -/
def success : CompletionStep → Option StoreAnswer
  | resolve _ => none
  | complete _ => some .defined

/-- Every parameter has been resolved when it is completed, if not among the first `resolved`
ones then by one of the steps before. -/
def ResolvedFirst (resolved : List Completion) : List CompletionStep → Prop
  | [] => True
  | resolve task :: rest => ResolvedFirst (task :: resolved) rest
  | complete task :: rest => task ∈ resolved ∧ ResolvedFirst resolved rest

/-- The steps complete the parameters of the given tasks and no others. -/
structure IsOrder (tasks : List Completion) (steps : List CompletionStep) : Prop where
  task_mem : ∀ step ∈ steps, step.task ∈ tasks
  resolvedFirst : ResolvedFirst [] steps
  complete_mem : ∀ task ∈ tasks, complete task ∈ steps

end CompletionStep

namespace Progress

/-- Some tasks have been resolved and some completed, as if all had been resolved in the store
that there was at first. -/
structure Reached (isKnown : String → Bool) (first : IndexedStore)
    (resolved completed : List Completion) (progress : Progress) : Prop where
  store : progress.store = first.filled (Completion.boundsOf isKnown first completed)
  resolved : ∀ task ∈ resolved,
    progress.resolved.lookup task.target = some (task.boundsIn isKnown first)

variable {isKnown : String → Bool} {first : IndexedStore} {progress : Progress}
variable {resolved completed tasks : List Completion} {task : Completion}

theorem Reached.resolve (reached : progress.Reached isKnown first resolved completed)
    (fits : task.Fits first)
    (single : ∀ other ∈ resolved, other.target = task.target → other = task) :
    let outcome := ((CompletionStep.resolve task).perform isKnown).run progress
    outcome.1 = none ∧ outcome.2.Reached isKnown first (task :: resolved) completed := by
  have bounds : task.boundsIn isKnown progress.store = task.boundsIn isKnown first := by
    rw [reached.store, Completion.boundsIn_filled fits]
  refine ⟨rfl, reached.store, ?_⟩
  change ∀ other ∈ task :: resolved, ((task.target, task.boundsIn isKnown progress.store) ::
    progress.resolved).lookup other.target = some (other.boundsIn isKnown first)
  rw [bounds, List.forall_mem_cons]
  refine ⟨List.lookup_cons_self, fun other member => ?_⟩
  rw [List.lookup_cons]
  split
  · next same => rw [single other member (eq_of_beq same)]
  · exact reached.resolved other member

theorem run_complete (isKnown : String → Bool) {bounds : List JavaType} {answer : StoreAnswer}
    {store : IndexedStore}
    (kept : progress.resolved.lookup task.target = some bounds)
    (call : (StoreCall.define task.scope task.parameter.name bounds).perform.run progress.store =
      (answer, store)) :
    ((CompletionStep.complete task).perform isKnown).run progress =
      (some answer, { progress with store := store }) := by
  rw [CompletionStep.perform, StateT.run_bind]
  simp only [StateT.run_get, pure_bind, kept, StateT.run_bind, call]
  rfl

theorem Reached.complete (reached : progress.Reached isKnown first resolved completed)
    (invariant : first.Invariant) (fits : task.Fits first) (member : task ∈ resolved) :
    let outcome := ((CompletionStep.complete task).perform isKnown).run progress
    outcome.1 = some .defined ∧ outcome.2.Reached isKnown first resolved (task :: completed) := by
  obtain ⟨found, present, declared⟩ := fits.declared
  have distinct := invariant.names found (List.mem_of_getElem? present)
  have call := IndexedStore.define_filled (Completion.boundsOf isKnown first completed) task.target
    present distinct declared (task.boundsIn_ne_nil isKnown first)
  rw [← Completion.boundsOf_cons, ← reached.store] at call
  have run := run_complete isKnown (reached.resolved task member) call
  rw [run]
  exact ⟨rfl, rfl, reached.resolved⟩

/-- Steps in which every parameter is resolved before it is completed all succeed. -/
theorem Reached.performEach (invariant : first.Invariant) (fits : ∀ task ∈ tasks, task.Fits first)
    (distinct : (tasks.map Completion.target).Nodup) (steps : List CompletionStep)
    (member : ∀ step ∈ steps, step.task ∈ tasks) (resolvedMember : ∀ task ∈ resolved, task ∈ tasks)
    (order : CompletionStep.ResolvedFirst resolved steps)
    (reached : progress.Reached isKnown first resolved completed) :
    let outcome := (steps.mapM (CompletionStep.perform isKnown)).run progress
    outcome.1 = steps.map CompletionStep.success ∧
      ∃ allResolved allCompleted, outcome.2.Reached isKnown first allResolved allCompleted ∧
        ∀ task, task ∈ allCompleted ↔ task ∈ completed ∨ .complete task ∈ steps := by
  induction steps generalizing progress resolved completed with
  | nil => exact ⟨rfl, resolved, completed, reached, fun task => by simp⟩
  | cons step rest ih =>
    rw [List.forall_mem_cons] at member
    cases step with
    | resolve task =>
      -- The bounds that are kept now hide no others, since a parameter has one task only.
      have single : ∀ other ∈ resolved, other.target = task.target → other = task :=
        fun other kept same =>
          List.inj_on_of_nodup_map distinct (resolvedMember other kept) member.1 same
      obtain ⟨answer, next⟩ := reached.resolve (fits task member.1) single
      obtain ⟨answers, allResolved, allCompleted, finished, mem_iff⟩ :=
        ih member.2 (List.forall_mem_cons.mpr ⟨member.1, resolvedMember⟩) order next
      rw [List.mapM_cons]
      refine ⟨congrArg₂ List.cons answer answers, allResolved, allCompleted, finished, ?_⟩
      intro other
      simp [mem_iff]
    | complete task =>
      obtain ⟨answer, next⟩ := reached.complete invariant (fits task member.1) order.1
      obtain ⟨answers, allResolved, allCompleted, finished, mem_iff⟩ :=
        ih member.2 resolvedMember order.2 next
      rw [List.mapM_cons]
      refine ⟨congrArg₂ List.cons answer answers, allResolved, allCompleted, finished, ?_⟩
      intro other
      simp [mem_iff, or_assoc, or_left_comm]

end Progress

/-- Whatever the order, every step succeeds and the same store comes out. -/
theorem CompletionStep.IsOrder.run (isKnown : String → Bool) {store : IndexedStore}
    {tasks : List Completion} {steps : List CompletionStep} (order : IsOrder tasks steps)
    (invariant : store.Invariant) (distinct : (tasks.map Completion.target).Nodup)
    (fits : ∀ task ∈ tasks, task.Fits store) :
    let outcome := (steps.mapM (perform isKnown)).run ⟨store, []⟩
    outcome.1 = steps.map success ∧
      outcome.2.store = store.filled (Completion.boundsOf isKnown store tasks) := by
  have start : Progress.Reached isKnown store [] [] ⟨store, []⟩ :=
    ⟨(IndexedStore.filled_none store).symm, List.forall_mem_nil _⟩
  obtain ⟨answers, allResolved, allCompleted, finished, mem_iff⟩ :=
    start.performEach invariant fits distinct steps order.task_mem (List.forall_mem_nil _)
      order.resolvedFirst
  have same (task : Completion) : task ∈ allCompleted ↔ task ∈ tasks := by
    rw [mem_iff, or_iff_right List.not_mem_nil]
    exact ⟨fun step => order.task_mem _ step, order.complete_mem task⟩
  refine ⟨answers, finished.store.trans ?_⟩
  rw [Completion.boundsOf_congr distinct same]

/-- In every store that calls lead to, names and types mean in a chain of its scopes what they
will mean after any further calls, refused or not; and it is all the same if these are made while
a type is resolved, before each class and each variable that is looked up. So declared parameters
may be resolved and completed in any order in which each is resolved first: no step fails, and in
the end every one of them has the bounds that resolution gives in the store as it was, and all
else is unchanged. -/
theorem resolution_stable (isKnown : String → Bool) (calls : List StoreCall) :
    let store := ((calls.mapM StoreCall.perform).run .empty).2
    (∀ chain : ScopeChain, (∀ scope ∈ chain, scope < store.scopes.length) →
      ∀ (more : List StoreCall) (meanwhile : List (List StoreCall)),
        let later := ((more.mapM StoreCall.perform).run store).2
        let place := Surroundings.ofPool isKnown store.toStore chain
        let amid := Surroundings.amidCalls isKnown chain
        (∀ name, chain.resolve later.toStore name = chain.resolve store.toStore name) ∧
        Surroundings.ofPool isKnown later.toStore chain = place ∧
        (∀ parameter, ((amid.bounds parameter).run (later, meanwhile)).1 =
          (place.bounds parameter).run) ∧
        (∀ type, ((amid.typeSignature type).run (later, meanwhile)).1 =
          (place.typeSignature type).run) ∧
        (∀ type, ((amid.referenceType type).run (later, meanwhile)).1 =
          (place.referenceType type).run) ∧
        (∀ type, ((amid.classType type).run (later, meanwhile)).1 = (place.classType type).run) ∧
        (∀ arguments, ((amid.typeArguments arguments).run (later, meanwhile)).1 =
          (place.typeArguments arguments).run) ∧
        ∀ type, ((amid.fieldType type).run (later, meanwhile)).1 = (place.fieldType type).run) ∧
    ∀ tasks : List Completion, (tasks.map Completion.target).Nodup →
      (∀ task ∈ tasks, task.Fits store) → ∀ steps, CompletionStep.IsOrder tasks steps →
        let outcome := (steps.mapM (CompletionStep.perform isKnown)).run ⟨store, []⟩
        outcome.1 = steps.map CompletionStep.success ∧
          outcome.2.store = store.filled (Completion.boundsOf isKnown store tasks) := by
  intro store
  have invariant : store.Invariant := (IndexedStore.performEach calls .empty).1
  constructor
  · intro chain visible more meanwhile later place amid
    have grown := IndexedStore.headers_prefix invariant more
    have same : amid.AnswersLike place (Surroundings.HasGrown store.toStore) :=
      Surroundings.amidCalls_answersLike isKnown visible
    have valid : Surroundings.HasGrown store.toStore (later, meanwhile) :=
      ⟨(IndexedStore.performEach more invariant).1, grown⟩
    refine ⟨ScopeChain.resolve_eq_of_prefix grown visible,
      Surroundings.ofPool_eq_of_prefix isKnown grown visible, fun parameter => ?_,
      fun type => ?_, fun type => ?_, fun type => ?_, fun arguments => ?_, fun type => ?_⟩
    · rw [Surroundings.bounds_yields same parameter _ valid]
    · rw [Surroundings.typeSignature_yields same type _ valid]
    · rw [Surroundings.referenceType_yields same type _ valid]
    · rw [Surroundings.classType_yields same type _ valid]
    · rw [Surroundings.typeArguments_yields same arguments _ valid]
    · rw [Surroundings.fieldType_yields same type _ valid]
  · intro tasks distinct fits steps order
    exact order.run isKnown invariant distinct fits

/-- Here `T` and `V` refer to each other from two classes, and `U` refers to itself. -/
theorem resolution_stable_of_mutual :
    let calls := [StoreCall.declare (.ofClass "p.A") ["T", "U"], .declare (.ofClass "p.B") ["V"]]
    let store := ((calls.mapM StoreCall.perform).run .empty).2
    let ofT : Completion := ⟨0, ⟨"T", none, [.typeVariable "V"]⟩, [0, 1]⟩
    let ofU : Completion := ⟨0, ⟨"U", none,
      [.classType (.topLevel ["p"] "C" [.bounded .invariant (.typeVariable "U")])]⟩, [0, 1]⟩
    let ofV : Completion := ⟨1, ⟨"V", some (.typeVariable "T"), []⟩, [1, 0]⟩
    let final := fun steps : List CompletionStep =>
      ((steps.mapM (CompletionStep.perform fun _ => false)).run ⟨store, []⟩).2.store
    let oneByOne : List CompletionStep :=
      [.resolve ofT, .complete ofT, .resolve ofU, .complete ofU, .resolve ofV, .complete ofV]
    let allResolvedFirst : List CompletionStep :=
      [.resolve ofV, .resolve ofT, .resolve ofU, .complete ofT, .complete ofU, .complete ofV]
    final oneByOne = final allResolvedFirst ∧
      (final oneByOne).toStore.boundsOf ⟨"T", some 0⟩ = [.typeVariable ⟨"V", some 1⟩] ∧
      (final oneByOne).toStore.boundsOf ⟨"V", some 1⟩ = [.typeVariable ⟨"T", some 0⟩] := by
  intro calls store ofT ofU ofV final oneByOne allResolvedFirst
  have fits : ∀ task ∈ [ofT, ofU, ofV], task.Fits store := by
    simp only [List.forall_mem_cons, List.not_mem_nil, false_implies, implies_true, and_true]
    exact ⟨⟨⟨_, rfl, by decide⟩, by decide⟩, ⟨⟨_, rfl, by decide⟩, by decide⟩,
      ⟨⟨_, rfl, by decide⟩, by decide⟩⟩
  have distinct : ([ofT, ofU, ofV].map Completion.target).Nodup := by decide
  have stable := (resolution_stable (fun _ => false) calls).2 [ofT, ofU, ofV] distinct fits
  have first : CompletionStep.IsOrder [ofT, ofU, ofV] oneByOne := by
    constructor <;> simp [oneByOne, CompletionStep.task, CompletionStep.ResolvedFirst]
  have second : CompletionStep.IsOrder [ofT, ofU, ofV] allResolvedFirst := by
    constructor <;> simp [allResolvedFirst, CompletionStep.task, CompletionStep.ResolvedFirst]
  refine ⟨(stable oneByOne first).2.trans (stable allResolvedFirst second).2.symm, ?_, ?_⟩
  · rfl
  · rfl

end JvmGenerics
