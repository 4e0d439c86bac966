import JvmGenerics.Proofs.Import.Outcome

/-!
# Working off the table

An import bounds the length of its walks and the number of classes that it resolves. The
bounds are never felt: an import does the same as work that nothing bounds. That work ends
by itself, since no class is declared twice and no walk passes a class twice, and it takes
every class from the table exactly once.
-/

namespace JvmGenerics

open ImportState

namespace Import

/-- A walk to the outside whose length nothing bounds, with the scopes that it collects
and the state that it leaves behind. -/
inductive Walks (sources : ImportSources) :
    List String → DeclaredClass → ImportState → ScopeChain → ImportState → Prop
  | passed {visited : List String} {declared : DeclaredClass} {state : ImportState} :
      declared.name ∈ visited →
        Walks sources visited declared state []
          (state.withEvents (state.events ++ [.enclosingLoop declared.name]))
  | alone {visited : List String} {declared : DeclaredClass} {state : ImportState} :
      declared.name ∉ visited → declared.info.enclosing = none →
        Walks sources visited declared state declared.generics.scope.toList state
  | cut {visited : List String} {declared : DeclaredClass} {state : ImportState}
      {place : Enclosing} :
      declared.name ∉ visited → declared.info.enclosing = some place → place.isStatic = true →
        Walks sources visited declared state declared.generics.scope.toList state
  | missing {visited : List String} {declared : DeclaredClass} {state asked : ImportState}
      {place : Enclosing} :
      declared.name ∉ visited → declared.info.enclosing = some place → place.isStatic = false →
        (ensureClass sources place.className).run state = (none, asked) →
          Walks sources visited declared state declared.generics.scope.toList
            (asked.withEvents (asked.events ++ [.enclosingMissing declared.name place.className]))
  | nested {visited : List String} {declared outer : DeclaredClass}
      {state asked after : ImportState} {place : Enclosing} {outwards : ScopeChain} :
      declared.name ∉ visited → declared.info.enclosing = some place → place.isStatic = false →
        (ensureClass sources place.className).run state = (some outer, asked) →
          Walks sources (declared.name :: visited) outer asked outwards after →
            Walks sources visited declared state (declared.generics.scope.toList ++
              (place.method.bind fun method =>
                asked.store.scopeOf? (.ofMethod place.className method)).toList ++ outwards) after

/-- Resolve the types of a class and of its methods once the chain of the class is known. -/
def resolveIn (sources : ImportSources) (chain : ScopeChain) (declared : DeclaredClass) :
    Import ImportedClass := do
  let supertypes ← resolveSupertypes sources chain declared
  let methods ← declared.methods.mapM (resolveMethod sources declared.name chain)
  return ⟨declared.info, declared.origin, declared.generics.scope, supertypes, methods⟩

/-- Work on the table from a given place on, as long as there is a class at the next place:
the classes that it takes from the table, what it makes of them, and the state in which no
class is left. -/
inductive Works (sources : ImportSources) :
    Nat → ImportState → List DeclaredClass → List ImportedClass → ImportState → Prop
  | done {next : Nat} {state : ImportState} :
      state.classes[next]? = none → Works sources next state [] [] state
  | step {next : Nat} {state walked after : ImportState} {declared : DeclaredClass}
      {chain : ScopeChain} {taken : List DeclaredClass} {others : List ImportedClass} :
      state.classes[next]? = some declared → Walks sources [] declared state chain walked →
        Works sources (next + 1) ((resolveIn sources chain declared).run walked).2 taken others
          after →
            Works sources next state (declared :: taken)
              (((resolveIn sources chain declared).run walked).1 :: others) after

variable {sources : ImportSources}

theorem Walks.unique {visited : List String} {declared : DeclaredClass}
    {state after other : ImportState} {chain otherChain : ScopeChain}
    (walks : Walks sources visited declared state chain after)
    (otherWalks : Walks sources visited declared state otherChain other) :
    otherChain = chain ∧ other = after := by
  induction walks generalizing otherChain other with
  | passed passed => cases otherWalks <;> simp_all
  | alone fresh enclosing => cases otherWalks <;> simp_all
  | cut fresh enclosing isStatic => cases otherWalks <;> simp_all
  | missing fresh enclosing isMember effect =>
    cases otherWalks with
    | missing _ otherEnclosing _ otherEffect =>
      obtain rfl := Option.some.inj (enclosing.symm.trans otherEnclosing)
      obtain ⟨-, rfl⟩ := Prod.mk.inj (effect.symm.trans otherEffect)
      exact ⟨rfl, rfl⟩
    | nested _ otherEnclosing _ otherEffect _ =>
      obtain rfl := Option.some.inj (enclosing.symm.trans otherEnclosing)
      cases (Prod.mk.inj (effect.symm.trans otherEffect)).1
    | _ => simp_all
  | nested fresh enclosing isMember effect _ ih =>
    cases otherWalks with
    | missing _ otherEnclosing _ otherEffect =>
      obtain rfl := Option.some.inj (enclosing.symm.trans otherEnclosing)
      cases (Prod.mk.inj (effect.symm.trans otherEffect)).1
    | nested _ otherEnclosing _ otherEffect otherOutwards =>
      obtain rfl := Option.some.inj (enclosing.symm.trans otherEnclosing)
      obtain ⟨found, rfl⟩ := Prod.mk.inj (effect.symm.trans otherEffect)
      obtain rfl := Option.some.inj found
      obtain ⟨rfl, rfl⟩ := ih otherOutwards
      exact ⟨rfl, rfl⟩
    | _ => simp_all

theorem Works.unique {next : Nat} {state after other : ImportState}
    {taken otherTaken : List DeclaredClass} {resolved otherResolved : List ImportedClass}
    (works : Works sources next state taken resolved after)
    (otherWorks : Works sources next state otherTaken otherResolved other) :
    otherTaken = taken ∧ otherResolved = resolved ∧ other = after := by
  induction works generalizing otherTaken otherResolved other with
  | done ended => cases otherWorks <;> simp_all
  | step listed walks _ ih =>
    cases otherWorks with
    | done ended => simp_all
    | step otherListed otherWalks otherRest =>
      obtain rfl := Option.some.inj (listed.symm.trans otherListed)
      obtain ⟨rfl, rfl⟩ := walks.unique otherWalks
      obtain ⟨rfl, rfl, rfl⟩ := ih otherRest
      exact ⟨rfl, rfl, rfl⟩

variable {batch : List ClassInfo} {reported : List Diagnostic} {state : ImportState}

theorem resolveClass_run_resolveIn (sources : ImportSources) (declared : DeclaredClass)
    (state : ImportState) :
    (resolveClass sources declared).run state =
      let walk := (lexicalChain sources declared).run state
      (resolveIn sources walk.1 declared).run walk.2 :=
  resolveClass_run sources declared state

/-- A walk with rounds enough is one that nothing bounds. -/
theorem chainFrom_walks (rounds : Nat) {visited : List String} {declared : DeclaredClass}
    (sound : state.Sound sources batch reported) (member : declared ∈ state.classes)
    (distinct : visited.Nodup) (passed : visited ⊆ state.classes.map DeclaredClass.name)
    (enough : batch.length + sources.classpath.names.length < rounds + visited.length) :
    Walks sources visited declared state
      ((chainFrom sources rounds visited declared).run state).1
      ((chainFrom sources rounds visited declared).run state).2 := by
  induction rounds generalizing state visited declared with
  | zero =>
    have length := sound.length_le_of_passed distinct passed
    omega
  | succ rounds ih =>
    by_cases met : declared.name ∈ visited
    · rw [chainFrom_of_passed met]
      exact .passed met
    cases enclosing : declared.info.enclosing with
    | none =>
      rw [chainFrom_of_alone met enclosing]
      exact .alone met enclosing
    | some place =>
      cases isStatic : place.isStatic with
      | true =>
        rw [chainFrom_of_cut met enclosing isStatic]
        exact .cut met enclosing isStatic
      | false =>
        have ⟨found, middle, first⟩ := ensureClass_spec sound place.className
        cases effect : (ensureClass sources place.className).run state with
        | mk result asked =>
        rw [effect] at found middle first
        cases result with
        | none =>
          rw [chainFrom_of_missing met enclosing isStatic effect]
          exact .missing met enclosing isStatic effect
        | some around =>
          have classes := (first.classes.map DeclaredClass.name).subset
          have listed := classes (List.mem_map_of_mem member)
          have outwards := ih middle (mem_of_class? found.symm).1
            (List.nodup_cons.mpr ⟨met, distinct⟩)
            (List.cons_subset.mpr ⟨listed, List.Subset.trans passed classes⟩)
            (by rw [List.length_cons]; omega)
          rw [chainFrom_of_nested met enclosing isStatic effect]
          exact .nested met enclosing isStatic effect outwards

/-- With rounds enough, the work goes on until every class is taken from the table. -/
theorem resolveFrom_works (rounds next : Nat)
    (limited : batch.length + sources.classpath.names.length ≤ sources.limit)
    (sound : state.Sound sources batch reported) (justified : state.Justified sources batch)
    (enough : sources.limit ≤ rounds + next) :
    let after := ((resolveFrom sources rounds next).run state).2
    Works sources next state (after.classes.drop next)
      ((resolveFrom sources rounds next).run state).1 after := by
  induction rounds generalizing state reported next with
  | zero =>
    have classes := sound.length_classes_le
    have ended : state.classes.length ≤ next := by omega
    rw [resolveFrom_of_end (List.getElem?_eq_none ended)]
    simp only [List.drop_eq_nil_of_le ended]
    exact .done (List.getElem?_eq_none ended)
  | succ rounds ih =>
    cases listed : state.classes[next]? with
    | none =>
      rw [resolveFrom_of_end listed]
      simp only [List.drop_eq_nil_of_le (List.getElem?_eq_none_iff.mp listed)]
      exact .done listed
    | some declared =>
      rw [resolveFrom_of_class listed]
      have member := List.mem_of_getElem? listed
      have walks := chainFrom_walks (sources.limit + 1) sound member List.nodup_nil
        (List.nil_subset _) (by rw [List.length_nil]; omega)
      have ⟨middle, first, _⟩ := resolveClass_spec limited sound member
      have middleJustified := first.justified justified fun name need =>
        sound.needed_of_mem justified member need
      have rest := resolveFrom_spec rounds (next + 1) limited middle middleJustified (by omega)
      have others := ih (next + 1) middle middleJustified (by omega)
      -- The class at this place of the table is still there when the work is done.
      have kept := List.prefix_iff_getElem?.mp (first.classes.trans rest.grown.classes) next
        (List.getElem?_eq_some_iff.mp listed).1
      rw [(List.getElem?_eq_some_iff.mp listed).2] at kept
      rw [resolveClass_run_resolveIn] at others kept ⊢
      simp only [List.drop_eq_getElem?_toList_append (i := next), kept]
      exact .step listed walks others

end Import

/-- An import takes the classes of its last table one after the other, and nothing else. -/
theorem ImportOptions.works (options : ImportOptions) (classpath : Classpath)
    (batch : List ClassInfo) :
    let table := options.lastState classpath batch
    Import.Works (options.sources classpath batch) 0 (.ofBatch batch) table.classes
      (importClasses options classpath batch).classes table := by
  have ⟨gathered, _⟩ := ImportState.ofBatch_spec (options.sources classpath batch) batch
  exact Import.resolveFrom_works (options.sources classpath batch).limit 0 (Nat.le_refl _)
    gathered.toSound gathered.toJustified (Nat.le_refl _)

end JvmGenerics
