import JvmGenerics.Proofs.Types.Store
import JvmGenerics.Types.IndexedStore

/-!
# What calls do to a store

Whatever calls are made, refused ones among them, the index of a store and its scopes stay
inverse to each other, and so a store with an index answers as the plain store does. A call that
is refused has changed nothing by then, and filling in bounds changes nothing but these bounds.
-/

namespace JvmGenerics

/-- The name stands behind another occurrence of it, and there is no repeat before that. -/
def IsFirstRepeat (names : List String) (name : String) : Prop :=
  ∃ before after, names = before ++ name :: after ∧ before.Nodup ∧ name ∈ before

theorem firstRepeat_eq_some_iff {seen names : List String} {name : String} :
    firstRepeat seen names = some name ↔ ∃ before after, names = before ++ name :: after ∧
      before.Nodup ∧ (∀ earlier ∈ before, earlier ∉ seen) ∧ (name ∈ seen ∨ name ∈ before) := by
  induction names generalizing seen with
  | nil => simp [firstRepeat]
  | cons first rest ih =>
    by_cases member : first ∈ seen
    · rw [firstRepeat, if_pos member]
      constructor
      · rintro ⟨⟩
        exact ⟨[], rest, rfl, List.nodup_nil, by simp, Or.inl member⟩
      · rintro ⟨before, after, split, -, unseen, -⟩
        cases before with
        | nil => cases split; rfl
        | cons earlier before =>
          cases split
          exact absurd member (unseen _ List.mem_cons_self)
    · rw [firstRepeat, if_neg member, ih]
      constructor
      · rintro ⟨before, after, rfl, distinct, unseen, repeated⟩
        refine ⟨first :: before, after, rfl, ?_, ?_, ?_⟩
        · exact List.nodup_cons.mpr ⟨fun again => unseen first again List.mem_cons_self, distinct⟩
        · refine List.forall_mem_cons.mpr ⟨member, fun earlier isBefore again => ?_⟩
          exact unseen earlier isBefore (List.mem_cons_of_mem _ again)
        · grind
      · rintro ⟨before, after, split, distinct, unseen, repeated⟩
        cases before with
        | nil =>
          cases split
          simp [member] at repeated
        | cons earlier before =>
          cases split
          rw [List.nodup_cons] at distinct
          exact ⟨before, after, rfl, distinct.2, by grind, by grind⟩

theorem firstRepeat_nil_eq_some_iff {names : List String} {name : String} :
    firstRepeat [] names = some name ↔ IsFirstRepeat names name := by
  simp [firstRepeat_eq_some_iff, IsFirstRepeat]

/-- Only which names have been seen matters. -/
theorem firstRepeat_congr {seen other : List String} (same : ∀ name, name ∈ seen ↔ name ∈ other)
    (names : List String) : firstRepeat seen names = firstRepeat other names := by
  induction names generalizing seen other with
  | nil => rfl
  | cons name rest ih =>
    have further : ∀ earlier, earlier ∈ name :: seen ↔ earlier ∈ name :: other := fun earlier => by
      rw [List.mem_cons, List.mem_cons, same earlier]
    rw [firstRepeat, firstRepeat, ih further]
    simp only [same name]

/-- The scope that a call declares, if it declares one. -/
def StoreCall.header? : StoreCall → StoreAnswer → Option ScopeHeader
  | declare owner names, .declared scope => some ⟨scope, owner, names⟩
  | _, _ => none

/-- A call on a store without an index. -/
def TypeStore.perform (store : TypeStore) : StoreCall → StoreAnswer × TypeStore
  | .declare owner names =>
    match store.declare owner names with
    | .ok (scope, next) => (.declared scope, next)
    | .error error => (.refused error, store)
  | .define scope name bounds =>
    match store.define scope name bounds with
    | .ok next => (.defined, next)
    | .error error => (.defect error, store)

namespace IndexedStore

/-- A scope of the store belongs to the owner. -/
def Owns (store : IndexedStore) (owner : Owner) : Prop :=
  ∃ scope ∈ store.scopes, scope.owner = owner

/-- The index leads from an owner to the scope of that owner and nowhere else, and no two
parameters of one scope share a name. -/
structure Invariant (store : IndexedStore) : Prop where
  scopeOf?_iff : ∀ owner scope, store.scopeOf? owner = some scope ↔
    ∃ found, store.scopes[scope]? = some found ∧ found.owner = owner
  names : ∀ scope ∈ store.scopes, scope.names.Nodup

variable {store : IndexedStore}

namespace Invariant

/-- Two scopes of one owner would have one number. -/
theorem owners_nodup (invariant : store.Invariant) : (store.scopes.map Scope.owner).Nodup := by
  rw [List.Nodup, List.pairwise_iff_getElem]
  intro first second firstBound secondBound before same
  rw [List.length_map] at firstBound secondBound
  rw [List.getElem_map, List.getElem_map] at same
  have atFirst := (invariant.scopeOf?_iff _ first).mpr
    ⟨_, List.getElem?_eq_getElem firstBound, rfl⟩
  have atSecond := (invariant.scopeOf?_iff _ second).mpr
    ⟨_, List.getElem?_eq_getElem secondBound, same.symm⟩
  exact absurd (Option.some.inj (atFirst.symm.trans atSecond)) (Nat.ne_of_lt before)

theorem isSome_scopeOf?_iff (invariant : store.Invariant) (owner : Owner) :
    (store.scopeOf? owner).isSome = true ↔ store.Owns owner := by
  simp only [Option.isSome_iff_exists, invariant.scopeOf?_iff, Owns, List.mem_iff_getElem?]
  grind

end Invariant

theorem run_get_bind {σ ε β : Type} (next : σ → ExceptT ε (StateM σ) β) (state : σ) :
    ((get : ExceptT ε (StateM σ) σ) >>= next).run.run state = (next state).run.run state :=
  rfl

theorem placeholders_eq (owner : Owner) (built : List TypeParameter) (names : List String) :
    placeholders owner built names =
      match firstRepeat (built.map TypeParameter.name) names with
      | some name => .error (.duplicateParameter owner name)
      | none => .ok (built ++ names.map fun name => ⟨name, []⟩) := by
  induction names generalizing built with
  | nil => simp [placeholders, firstRepeat]
  | cons name rest ih =>
    have taken : (built.any fun parameter => parameter.name == name) = true ↔
        name ∈ built.map TypeParameter.name := by simp
    rw [placeholders, firstRepeat]
    by_cases repeated : name ∈ built.map TypeParameter.name
    · rw [if_pos repeated, if_pos (taken.mpr repeated)]
    · have added : firstRepeat ((built ++ [TypeParameter.mk name []]).map TypeParameter.name) rest =
          firstRepeat (name :: built.map TypeParameter.name) rest :=
        firstRepeat_congr (by simp [or_comm]) rest
      rw [if_neg repeated, if_neg (repeated ∘ taken.mp), ih, added]
      simp

theorem run_declare (store : IndexedStore) (owner : Owner) (names : List String) :
    (declare owner names).run.run store =
      if (store.scopeOf? owner).isSome then (.error (.alreadyDeclared owner), store)
      else match firstRepeat [] names with
        | some name => (.error (.duplicateParameter owner name), store)
        | none => (.ok store.scopes.length, ⟨store.scopes ++ [Scope.placeholder owner names],
            (owner, store.scopes.length) :: store.numbers⟩) := by
  rw [declare, run_get_bind]
  have built := placeholders_eq owner [] names
  rw [List.map_nil] at built
  split
  · rfl
  · cases repeats : firstRepeat [] names with
    | some name =>
      rw [repeats] at built
      rw [built]
      rfl
    | none =>
      rw [repeats] at built
      rw [built]
      rfl

theorem run_define (store : IndexedStore) (scope : ScopeId) (name : String)
    (bounds : List JavaType) :
    (define scope name bounds).run.run store =
      match store.scopes[scope]? with
      | none => (.error (.unknownScope scope), store)
      | some found =>
        if bounds.isEmpty then (.error (.noBounds found.owner name), store)
        else match found.parameters.findIdx? fun parameter => parameter.name == name with
          | none => (.error (.undeclared found.owner name), store)
          | some place => (.ok (), { store with scopes := store.scopes.set scope { found with
              parameters := found.parameters.modify place fun parameter =>
                { parameter with bounds := bounds } } }) := by
  rw [define, run_get_bind]
  cases store.scopes[scope]? with
  | none => rfl
  | some found =>
    dsimp only
    split
    · rfl
    · cases found.parameters.findIdx? fun parameter => parameter.name == name with
      | none => rfl
      | some place => rfl

/-- What declaring a scope comes to. -/
inductive Declares (store : IndexedStore) (owner : Owner) (names : List String) :
    StoreAnswer × IndexedStore → Prop
  | present (owned : store.Owns owner) :
      Declares store owner names (.refused (.alreadyDeclared owner), store)
  | repeated {name : String} (fresh : ¬store.Owns owner) (isFirst : IsFirstRepeat names name) :
      Declares store owner names (.refused (.duplicateParameter owner name), store)
  | declared (fresh : ¬store.Owns owner) (distinct : names.Nodup) :
      Declares store owner names (.declared store.scopes.length,
        ⟨store.scopes ++ [Scope.placeholder owner names],
          (owner, store.scopes.length) :: store.numbers⟩)

theorem declares_perform (invariant : store.Invariant) (owner : Owner) (names : List String) :
    store.Declares owner names ((StoreCall.declare owner names).perform.run store) := by
  rw [StoreCall.perform, StateT.run_bind, run_declare]
  by_cases owned : store.Owns owner
  · rw [if_pos ((invariant.isSome_scopeOf?_iff owner).mpr owned)]
    exact .present owned
  · rw [if_neg (owned ∘ (invariant.isSome_scopeOf?_iff owner).mp)]
    cases repeats : firstRepeat [] names with
    | some name => exact .repeated owned (firstRepeat_nil_eq_some_iff.mp repeats)
    | none => exact .declared owned ((firstRepeat_nil_eq_none_iff names).mp repeats)

/-- What filling in bounds comes to. -/
inductive Defines (store : IndexedStore) (scope : ScopeId) (name : String)
    (bounds : List JavaType) : StoreAnswer × IndexedStore → Prop
  | unknownScope (absent : store.scopes[scope]? = none) :
      Defines store scope name bounds (.defect (.unknownScope scope), store)
  | noBounds {found : Scope} (present : store.scopes[scope]? = some found)
      (unbounded : bounds = []) :
      Defines store scope name bounds (.defect (.noBounds found.owner name), store)
  | undeclared {found : Scope} (present : store.scopes[scope]? = some found)
      (bounded : bounds ≠ []) (absent : name ∉ found.names) :
      Defines store scope name bounds (.defect (.undeclared found.owner name), store)
  | defined {owner : Owner} {front back : List TypeParameter} {previous : List JavaType}
      (present : store.scopes[scope]? = some ⟨owner, front ++ ⟨name, previous⟩ :: back⟩)
      (bounded : bounds ≠ []) :
      Defines store scope name bounds (.defined, { store with
        scopes := store.scopes.set scope ⟨owner, front ++ ⟨name, bounds⟩ :: back⟩ })

/-- The first parameter of a given name, between those in front of it and those behind it. -/
theorem exists_modify_eq {parameters : List TypeParameter} {name : String} {place : Nat}
    (found : parameters.findIdx? (fun parameter => parameter.name == name) = some place)
    (bounds : List JavaType) : ∃ front previous back,
      parameters = front ++ ⟨name, previous⟩ :: back ∧
      parameters.modify place (fun parameter => { parameter with bounds := bounds }) =
        front ++ ⟨name, bounds⟩ :: back := by
  induction parameters generalizing place with
  | nil => cases found
  | cons first rest ih =>
    rw [List.findIdx?_cons] at found
    split at found
    · next same =>
      cases found
      obtain rfl : first.name = name := by simpa using same
      exact ⟨[], first.bounds, rest, rfl, rfl⟩
    · obtain ⟨before, later, rfl⟩ := Option.map_eq_some_iff.mp found
      obtain ⟨front, previous, back, rfl, modified⟩ := ih later
      exact ⟨first :: front, previous, back, rfl, congrArg (first :: ·) modified⟩

theorem defines_perform (store : IndexedStore) (scope : ScopeId) (name : String)
    (bounds : List JavaType) :
    store.Defines scope name bounds ((StoreCall.define scope name bounds).perform.run store) := by
  rw [StoreCall.perform, StateT.run_bind, run_define]
  cases present : store.scopes[scope]? with
  | none => exact .unknownScope present
  | some found =>
    dsimp only
    by_cases unbounded : bounds = []
    · rw [if_pos (List.isEmpty_iff.mpr unbounded)]
      exact .noBounds present unbounded
    · rw [if_neg (unbounded ∘ List.isEmpty_iff.mp)]
      obtain ⟨owner, parameters⟩ := found
      cases isPlace : parameters.findIdx? fun parameter => parameter.name == name with
      | none =>
        have absent : name ∉ parameters.map TypeParameter.name := by
          simpa using List.findIdx?_eq_none_iff.mp isPlace
        exact .undeclared present unbounded absent
      | some place =>
        obtain ⟨front, previous, back, rfl, modified⟩ := exists_modify_eq isPlace bounds
        dsimp only
        rw [modified]
        exact .defined present unbounded

theorem Invariant.empty : IndexedStore.empty.Invariant where
  scopeOf?_iff := by simp [IndexedStore.empty, scopeOf?]
  names := by simp [IndexedStore.empty]

section Scopes

variable {scopes : List Scope} {holds : Scope → Prop} {scope : ScopeId}

/-- A scope is one of those that were there before, or the last one. -/
theorem exists_getElem?_concat_iff {last : Scope} :
    (∃ found, (scopes ++ [last])[scope]? = some found ∧ holds found) ↔
      (∃ found, scopes[scope]? = some found ∧ holds found) ∨
        scope = scopes.length ∧ holds last := by
  rw [List.getElem?_append]
  split
  · next within =>
    exact (or_iff_left fun atEnd => Nat.ne_of_lt within atEnd.1).symm
  · next beyond => grind

/-- What holds of a scope as before it was changed holds of the same scopes as before. -/
theorem exists_getElem?_set_iff {previous changed : Scope} {place : ScopeId}
    (present : scopes[place]? = some previous) (same : holds changed ↔ holds previous) :
    (∃ found, (scopes.set place changed)[scope]? = some found ∧ holds found) ↔
      ∃ found, scopes[scope]? = some found ∧ holds found := by
  by_cases here : place = scope
  · subst here
    have bound := (List.getElem?_eq_some_iff.mp present).1
    rw [List.getElem?_set_self bound, present]
    simp [same]
  · rw [List.getElem?_set_ne here]

end Scopes

theorem scopeOf?_of_recorded (scopes : List Scope) (numbers : List (Owner × ScopeId))
    (owner other : Owner) (number : ScopeId) :
    scopeOf? ⟨scopes, (owner, number) :: numbers⟩ other =
      if other = owner then some number else numbers.lookup other := by
  rw [scopeOf?, List.lookup_cons]
  split
  · next same => rw [if_pos (eq_of_beq same)]
  · next different => rw [if_neg (by simpa using different)]

variable {owner : Owner} {names : List String} {scope : ScopeId} {name : String}
variable {bounds : List JavaType} {outcome : StoreAnswer × IndexedStore}

theorem Declares.invariant (invariant : store.Invariant)
    (declares : store.Declares owner names outcome) : outcome.2.Invariant := by
  cases declares with
  | present owned => exact invariant
  | repeated fresh isFirst => exact invariant
  | declared fresh distinct =>
    constructor
    · intro other scope
      rw [exists_getElem?_concat_iff, ← invariant.scopeOf?_iff, scopeOf?_of_recorded]
      by_cases same : other = owner
      · subst same
        have noNumber : store.scopeOf? other ≠ some scope := fun number =>
          fresh ((invariant.isSome_scopeOf?_iff other).mp (by simp [number]))
        rw [if_pos rfl, or_iff_right noNumber, Option.some.injEq, eq_comm]
        exact (and_iff_left rfl).symm
      · rw [if_neg same]
        exact (or_iff_left fun last => same last.2.symm).symm
    · rw [List.forall_mem_append]
      exact ⟨invariant.names, by simpa using distinct⟩

theorem Defines.invariant (invariant : store.Invariant)
    (defines : store.Defines scope name bounds outcome) : outcome.2.Invariant := by
  cases defines with
  | unknownScope absent => exact invariant
  | noBounds present unbounded => exact invariant
  | undeclared present bounded absent => exact invariant
  | defined present bounded =>
    constructor
    · intro other place
      refine (invariant.scopeOf?_iff other place).trans (exists_getElem?_set_iff present ?_).symm
      exact Iff.rfl
    · intro found member
      rcases List.mem_or_eq_of_mem_set member with unchanged | rfl
      · exact invariant.names found unchanged
      · have distinct := invariant.names _ (List.mem_of_getElem? present)
        simpa [Scope.names] using distinct

theorem Invariant.perform (invariant : store.Invariant) (call : StoreCall) :
    (call.perform.run store).2.Invariant := by
  cases call with
  | declare owner names => exact (declares_perform invariant owner names).invariant invariant
  | define scope name bounds => exact (defines_perform store scope name bounds).invariant invariant

/-- Only a call that declares a scope changes the headers of a store, and it adds one. -/
theorem headers_perform (invariant : store.Invariant) (call : StoreCall) :
    (call.perform.run store).2.toStore.headers =
      store.toStore.headers ++ (call.header? (call.perform.run store).1).toList := by
  cases call with
  | declare owner names =>
    have declares := declares_perform invariant owner names
    generalize (StoreCall.declare owner names).perform.run store = outcome at declares ⊢
    cases declares with
    | present owned => exact (List.append_nil _).symm
    | repeated fresh isFirst => exact (List.append_nil _).symm
    | declared fresh distinct =>
      simp [toStore, TypeStore.headers_append, StoreCall.header?]
      rfl
  | define scope name bounds =>
    have defines := defines_perform store scope name bounds
    generalize (StoreCall.define scope name bounds).perform.run store = outcome at defines ⊢
    have noHeader : (StoreCall.define scope name bounds).header? outcome.1 = none := rfl
    rw [noHeader, Option.toList_none, List.append_nil]
    cases defines with
    | unknownScope absent => rfl
    | noBounds present unbounded => rfl
    | undeclared present bounded absent => rfl
    | defined present bounded =>
      have previous : store.toStore.scope? scope = _ := present
      exact TypeStore.headers_set previous rfl (by simp [Scope.names])

theorem performEach (calls : List StoreCall) (invariant : store.Invariant) :
    let outcome := (calls.mapM StoreCall.perform).run store
    outcome.2.Invariant ∧ outcome.2.toStore.headers = store.toStore.headers ++
      (calls.zip outcome.1).filterMap fun done => done.1.header? done.2 := by
  induction calls generalizing store with
  | nil => exact ⟨invariant, (List.append_nil _).symm⟩
  | cons call rest ih =>
    obtain ⟨kept, grown⟩ := ih (invariant.perform call)
    rw [headers_perform invariant call] at grown
    rw [List.mapM_cons]
    refine ⟨kept, grown.trans ?_⟩
    rw [List.append_assoc]
    congr 1
    change _ = ((call, (call.perform.run store).1) :: rest.zip _).filterMap _
    rw [List.filterMap_cons]
    cases call.header? (call.perform.run store).1 <;> rfl

theorem Declares.alreadyDeclared_iff (declares : store.Declares owner names outcome) :
    outcome.1 = .refused (.alreadyDeclared owner) ↔ store.Owns owner := by
  cases declares with
  | present owned => exact iff_of_true rfl owned
  | repeated fresh isFirst => exact iff_of_false nofun fresh
  | declared fresh distinct => exact iff_of_false nofun fresh

theorem Declares.duplicateParameter_iff (declares : store.Declares owner names outcome)
    (name : String) : outcome.1 = .refused (.duplicateParameter owner name) ↔
      ¬store.Owns owner ∧ IsFirstRepeat names name := by
  rw [← firstRepeat_nil_eq_some_iff]
  cases declares with
  | present owned => exact iff_of_false nofun fun both => both.1 owned
  | repeated fresh isFirst =>
    rw [firstRepeat_nil_eq_some_iff.mpr isFirst, and_iff_right fresh]
    simp
  | declared fresh distinct =>
    rw [(firstRepeat_nil_eq_none_iff names).mpr distinct]
    exact iff_of_false nofun fun both => nomatch both.2

theorem scopeOf?_toStore (invariant : store.Invariant) (owner : Owner) :
    store.toStore.scopeOf? owner = store.scopeOf? owner := by
  rw [TypeStore.scopeOf?]
  cases search : store.toStore.scopes.findIdx? fun scope => scope.owner == owner with
  | none =>
    have noScope : ¬store.Owns owner := by
      rintro ⟨scope, member, owned⟩
      have different := List.findIdx?_eq_none_iff.mp search scope member
      simp [owned] at different
    rw [← invariant.isSome_scopeOf?_iff, Option.not_isSome_iff_eq_none] at noScope
    exact noScope.symm
  | some scope =>
    obtain ⟨bound, same, -⟩ := List.findIdx?_eq_some_iff_getElem.mp search
    exact ((invariant.scopeOf?_iff owner scope).mpr
      ⟨_, List.getElem?_eq_getElem bound, eq_of_beq same⟩).symm

/-- The store without its index gives the same answer and has the same scopes afterwards. -/
theorem perform_toStore (invariant : store.Invariant) (call : StoreCall) :
    store.toStore.perform call =
      ((call.perform.run store).1, (call.perform.run store).2.toStore) := by
  cases call with
  | declare owner names =>
    have declares := declares_perform invariant owner names
    generalize (StoreCall.declare owner names).perform.run store = outcome at declares ⊢
    have isSome := invariant.isSome_scopeOf?_iff owner
    rw [← scopeOf?_toStore invariant] at isSome
    cases declares with
    | present owned =>
      rw [TypeStore.perform, TypeStore.declare_of_present names (isSome.mpr owned)]
    | repeated fresh isFirst =>
      have unknown := Option.not_isSome_iff_eq_none.mp (fresh ∘ isSome.mp)
      rw [TypeStore.perform,
        TypeStore.declare_of_repeat unknown (firstRepeat_nil_eq_some_iff.mpr isFirst)]
    | declared fresh distinct =>
      have unknown := Option.not_isSome_iff_eq_none.mp (fresh ∘ isSome.mp)
      rw [TypeStore.perform,
        TypeStore.declare_of_fresh unknown ((firstRepeat_nil_eq_none_iff names).mpr distinct)]
      rfl
  | define scope name bounds =>
    have defines := defines_perform store scope name bounds
    generalize (StoreCall.define scope name bounds).perform.run store = outcome at defines ⊢
    cases defines with
    | unknownScope absent =>
      have unknown : store.toStore.scope? scope = none := absent
      simp [TypeStore.perform, TypeStore.define, unknown]
    | noBounds present unbounded =>
      have known : store.toStore.scope? scope = some _ := present
      simp [TypeStore.perform, TypeStore.define, known, unbounded]
    | @undeclared found present bounded absent =>
      have known : store.toStore.scope? scope = some _ := present
      have undeclared : found.declares name = false := by
        rwa [← Bool.not_eq_true, Scope.declares_iff]
      simp [TypeStore.perform, TypeStore.define, known, bounded, undeclared]
    | @defined owner front back previous present bounded =>
      have known : store.toStore.scope? scope = some _ := present
      have distinct := invariant.names _ (List.mem_of_getElem? present)
      rw [TypeStore.perform, TypeStore.define_of_declared known bounded (by simp [Scope.names]),
        TypeStore.update_middle distinct]
      rfl

/-- In every store that calls lead to, each scope has its own owner, the index leads from the
owner to that scope and nowhere else, and the scopes are those of the calls that were answered
with a number, in the order of the calls and with the names that these gave, which differ. A
further declaration is refused if the owner has a scope, and otherwise for the first name that
repeats an earlier one. No refused call changes anything, and bounds are filled in without any
other change. The plain store gives the same answers. -/
theorem reachable_store (calls : List StoreCall) :
    let outcome := (calls.mapM StoreCall.perform).run .empty
    let store := outcome.2
    ((store.scopes.map Scope.owner).Nodup ∧
      (∀ owner scope, store.scopeOf? owner = some scope ↔
        ∃ found, store.scopes[scope]? = some found ∧ found.owner = owner) ∧
      (∀ scope ∈ store.scopes, scope.names.Nodup) ∧
      store.toStore.headers =
        (calls.zip outcome.1).filterMap fun done => done.1.header? done.2) ∧
    (∀ owner names, let further := (StoreCall.declare owner names).perform.run store
      (further.1 = .refused (.alreadyDeclared owner) ↔ store.Owns owner) ∧
      (∀ name, further.1 = .refused (.duplicateParameter owner name) ↔
        ¬store.Owns owner ∧ IsFirstRepeat names name) ∧
      store.Declares owner names further) ∧
    (∀ scope name bounds, store.Defines scope name bounds
      ((StoreCall.define scope name bounds).perform.run store)) ∧
    (∀ owner, store.toStore.scopeOf? owner = store.scopeOf? owner) ∧
    ∀ call, store.toStore.perform call =
      ((call.perform.run store).1, (call.perform.run store).2.toStore) := by
  intro outcome store
  obtain ⟨invariant, headers⟩ := performEach calls Invariant.empty
  refine ⟨⟨invariant.owners_nodup, invariant.scopeOf?_iff, invariant.names, headers⟩,
    fun owner names => ?_, store.defines_perform, scopeOf?_toStore invariant,
    perform_toStore invariant⟩
  have declares := declares_perform invariant owner names
  exact ⟨declares.alreadyDeclared_iff, declares.duplicateParameter_iff, declares⟩

end IndexedStore

end JvmGenerics
