import JvmGenerics.Proofs.Import.Lookup
import Mathlib.Data.List.Perm.Subperm

/-!
# The walk to the outside

The walk that collects the scopes visible in a class may load the classes around it.
It ends before its rounds do, since it passes no class twice and there are only
finitely many, and what it collects is the lexical chain of the class, then and in
every later state.
-/

namespace JvmGenerics

open ImportState

variable {sources : ImportSources} {batch : List ClassInfo} {reported : List Diagnostic}
variable {state : ImportState}

/-- Every class is one of the batch or one that the classpath can find. -/
theorem ImportState.Sound.length_classes_le (sound : state.Sound sources batch reported) :
    state.classes.length ≤ batch.length + sources.classpath.names.length := by
  have known : state.classes.map DeclaredClass.name ⊆
      batch.map ClassInfo.name ++ sources.classpath.names := by
    intro name listed
    obtain ⟨found, member, rfl⟩ := List.mem_map.mp listed
    have means := sound.known found member
    unfold ImportSources.classNamed? at means
    split at means
    · next info inBatch =>
      have same : info.name = found.name := by simpa using List.find?_some inBatch
      rw [← same]
      exact List.mem_append_left _ (List.mem_map_of_mem (List.mem_of_find?_eq_some inBatch))
    · split at means
      · rw [Option.map_eq_some_iff] at means
        obtain ⟨info, loaded, -⟩ := means
        have answer := (Option.filter_eq_some_iff.mp loaded).1
        unfold Classpath.load at answer
        split at answer
        · next answered =>
          rw [answer] at answered
          exact List.mem_append_right _ (sources.classpath.mem_names answered)
        · cases answer
      · cases means
  have length := (List.subperm_of_subset sound.distinct known).length_le
  simpa using length

/-- A walk that passes no class twice passes no more classes than there can be. -/
theorem ImportState.Sound.length_le_of_passed {visited : List String}
    (sound : state.Sound sources batch reported) (distinct : visited.Nodup)
    (passed : visited ⊆ state.classes.map DeclaredClass.name) :
    visited.length ≤ batch.length + sources.classpath.names.length := by
  have length := (List.subperm_of_subset distinct passed).length_le
  rw [List.length_map] at length
  exact Nat.le_trans length sound.length_classes_le

/-- A name that means no class now will mean none later. -/
theorem ImportState.Sound.class?_eq_none_later {later : ImportState} {touched : List ScopeId}
    {reportedLater : List Diagnostic} {name : String}
    (sound : state.Sound sources batch reported) (settled : state.Settled sources name)
    (absent : state.class? name = none) (soundLater : later.Sound sources batch reportedLater)
    (grown : state.Grown touched later) : later.class? name = none := by
  have nothing := sound.classNamed?_eq settled
  rw [absent, soundLater.classNamed?_eq (settled.mono grown)] at nothing
  simpa using nothing

theorem ImportState.Sound.needed_of_mem (sound : state.Sound sources batch reported)
    (justified : state.Justified sources batch) {found : DeclaredClass}
    (member : found ∈ state.classes) {name : String} (need : name ∈ found.info.needs) :
    sources.Needed batch name :=
  .need (justified.classes found member) (sound.known found member) need

/-- In this state and in every later one, `chain` is the lexical chain of a class, where
the classes in `visited` were passed before. -/
def ImportState.IsChain (sources : ImportSources) (batch : List ClassInfo) (state : ImportState)
    (visited : List String) (declared : DeclaredClass) (chain : ScopeChain) : Prop :=
  ∀ {reported touched later}, later.Sound sources batch reported → state.Grown touched later →
    LexicalChain later.outline? visited declared.outline chain

theorem ImportState.IsChain.mono {visited : List String} {declared : DeclaredClass}
    {chain : ScopeChain} {touched : List ScopeId} {later : ImportState}
    (lexical : state.IsChain sources batch visited declared chain)
    (grown : state.Grown touched later) : later.IsChain sources batch visited declared chain := by
  intro reported further last sound grownFurther
  exact lexical sound ((grown.mono (List.subset_append_left touched further)).trans
    (grownFurther.mono (List.subset_append_right touched further)))

namespace ImportState.IsChain

variable {asked last : ImportState} {visited : List String} {declared around : DeclaredClass}
variable {place : Enclosing} {outwards : ScopeChain}

/-- The chain ends before a class that is not there, and that will not change. -/
theorem missing (sound : asked.Sound sources batch reported)
    (settled : asked.Settled sources place.className)
    (absent : asked.class? place.className = none) (fresh : declared.name ∉ visited)
    (enclosing : declared.info.enclosing = some place) (isMember : place.isStatic = false) :
    asked.IsChain sources batch visited declared declared.generics.scope.toList := by
  intro reportedLater touched later soundLater grown
  have absentLater := sound.class?_eq_none_later settled absent soundLater grown
  exact .missing fresh enclosing isMember (by rw [outline?, absentLater]; rfl)

/-- The chain goes on in the class around, where the scope of the method around is the
one that is found at the moment of the walk. -/
theorem nested (sound : asked.Sound sources batch reported)
    (found : asked.class? place.className = some around) (fresh : declared.name ∉ visited)
    (enclosing : declared.info.enclosing = some place) (isMember : place.isStatic = false)
    (grown : asked.Grown [] last)
    (lexical : last.IsChain sources batch (declared.name :: visited) around outwards) :
    last.IsChain sources batch visited declared (declared.generics.scope.toList ++
      (place.method.bind fun method =>
        asked.store.scopeOf? (.ofMethod place.className method)).toList ++ outwards) := by
  intro reportedLater touched later soundLater grownLater
  have kept := (grown.mono (List.nil_subset touched)).trans grownLater
  have present : later.outline? place.className = some around.outline := by
    rw [outline?, kept.class?_eq_some found, Option.map_some]
  have method : place.method.bind (fun method =>
      asked.store.scopeOf? (.ofMethod place.className method)) =
        place.method.bind around.outline.methodScope? :=
    Option.bind_congr fun key _ => sound.scopeOf?_method found key
  rw [method]
  exact .nested fresh enclosing isMember present (lexical soundLater grownLater)

end ImportState.IsChain

namespace Import

section Rounds

variable {rounds : Nat} {visited : List String} {declared : DeclaredClass} {place : Enclosing}

theorem chainFrom_of_passed (passed : declared.name ∈ visited) :
    (chainFrom sources (rounds + 1) visited declared).run state =
      ([], state.withEvents (state.events ++ [.enclosingLoop declared.name])) := by
  simp only [chainFrom, List.contains_eq_mem, passed, decide_true, if_true, run_bind, log_run,
    run_pure]

theorem chainFrom_of_alone (fresh : declared.name ∉ visited)
    (alone : declared.info.enclosing = none) :
    (chainFrom sources (rounds + 1) visited declared).run state =
      (declared.generics.scope.toList, state) := by
  simp [chainFrom, fresh, alone]
  rfl

theorem chainFrom_of_cut (fresh : declared.name ∉ visited)
    (enclosing : declared.info.enclosing = some place) (isStatic : place.isStatic = true) :
    (chainFrom sources (rounds + 1) visited declared).run state =
      (declared.generics.scope.toList, state) := by
  simp [chainFrom, fresh, enclosing, isStatic]
  rfl

variable {asked : ImportState}

theorem chainFrom_of_missing (fresh : declared.name ∉ visited)
    (enclosing : declared.info.enclosing = some place) (isMember : place.isStatic = false)
    (missing : (ensureClass sources place.className).run state = (none, asked)) :
    (chainFrom sources (rounds + 1) visited declared).run state =
      (declared.generics.scope.toList, asked.withEvents
        (asked.events ++ [.enclosingMissing declared.name place.className])) := by
  simp only [chainFrom, List.contains_eq_mem, fresh, decide_false, enclosing, isMember,
    Bool.false_eq_true, if_false]
  rw [run_bind, missing]
  rfl

theorem chainFrom_of_nested {outer : DeclaredClass} (fresh : declared.name ∉ visited)
    (enclosing : declared.info.enclosing = some place) (isMember : place.isStatic = false)
    (found : (ensureClass sources place.className).run state = (some outer, asked)) :
    (chainFrom sources (rounds + 1) visited declared).run state =
      let outwards := (chainFrom sources rounds (declared.name :: visited) outer).run asked
      (declared.generics.scope.toList ++ (place.method.bind fun method =>
        asked.store.scopeOf? (.ofMethod place.className method)).toList ++ outwards.1,
          outwards.2) := by
  simp only [chainFrom, List.contains_eq_mem, fresh, decide_false, enclosing, isMember,
    Bool.false_eq_true, if_false]
  rw [run_bind, found]
  rfl

end Rounds

/-- The walk settles which class is around a class, and it yields the lexical chain. -/
theorem chainFrom_spec
    (limited : batch.length + sources.classpath.names.length ≤ sources.limit)
    (rounds : Nat) {visited : List String} {declared : DeclaredClass}
    (sound : state.Sound sources batch reported) (member : declared ∈ state.classes)
    (distinct : visited.Nodup) (passed : visited ⊆ state.classes.map DeclaredClass.name)
    (enough : sources.limit < rounds + visited.length) :
    let after := ((chainFrom sources rounds visited declared).run state).2
    after.Sound sources batch reported ∧
      state.Progress sources batch
        (if declared.name ∈ visited then [] else declared.info.outer?.toList) [] after ∧
      after.IsChain sources batch visited declared
        ((chainFrom sources rounds visited declared).run state).1 := by
  induction rounds generalizing state visited declared with
  | zero =>
    have length := sound.length_le_of_passed distinct passed
    omega
  | succ rounds ih =>
    by_cases met : declared.name ∈ visited
    · rw [chainFrom_of_passed met, if_pos met]
      exact ⟨sound.withEvents _, progress_withEvents _ _, fun _ _ => .passed met⟩
    rw [if_neg met]
    have outline : declared.outline.name ∉ visited := met
    cases enclosing : declared.info.enclosing with
    | none =>
      rw [chainFrom_of_alone met enclosing, ClassInfo.outer?, enclosing]
      exact ⟨sound, Progress.refl [] state, fun _ _ => .alone outline enclosing⟩
    | some place =>
      cases isStatic : place.isStatic with
      | true =>
        rw [chainFrom_of_cut met enclosing isStatic, ClassInfo.outer?, enclosing,
          Option.bind_some, isStatic]
        exact ⟨sound, Progress.refl [] state, fun _ _ => .cut outline enclosing isStatic⟩
      | false =>
        have ⟨found, middle, first⟩ := ensureClass_spec sound place.className
        have settled := first.settled place.className (List.mem_singleton.mpr rfl)
        have outer : declared.info.outer? = some place.className := by
          rw [ClassInfo.outer?, enclosing, Option.bind_some, isStatic]
          rfl
        rw [outer]
        cases effect : (ensureClass sources place.className).run state with
        | mk result asked =>
        rw [effect] at found middle first settled
        simp only at found middle first settled
        cases result with
        | none =>
          rw [chainFrom_of_missing met enclosing isStatic effect]
          have lexical : asked.IsChain sources batch visited declared _ :=
            ImportState.IsChain.missing middle settled found.symm met enclosing isStatic
          have logged : asked.Progress sources batch [] [] _ := progress_withEvents asked
            (asked.events ++ [.enclosingMissing declared.name place.className])
          exact ⟨middle.withEvents _, first.trans logged, lexical.mono logged.toGrown⟩
        | some around =>
          have ⟨aroundMember, named⟩ := mem_of_class? found.symm
          have classes := (first.classes.map DeclaredClass.name).subset
          have listed := classes (List.mem_map_of_mem member)
          have ⟨last, second, lexical⟩ := ih middle aroundMember
            (List.nodup_cons.mpr ⟨met, distinct⟩)
            (List.cons_subset.mpr ⟨listed, List.Subset.trans passed classes⟩)
            (by rw [List.length_cons]; omega)
          rw [chainFrom_of_nested met enclosing isStatic effect]
          refine ⟨last, ⟨first.toGrown.trans second.toGrown, ?_, ?_⟩,
            ImportState.IsChain.nested middle found.symm met enclosing isStatic second.toGrown
              lexical⟩
          · intro name single
            obtain rfl := List.mem_singleton.mp single
            exact settled.mono second.toGrown
          · intro justified needed
            -- What the walk needs further out is needed by the class around.
            refine second.justified (first.justified justified needed) fun name outwards => ?_
            have own : name ∈ around.info.outer?.toList := by
              split at outwards
              · cases outwards
              · exact outwards
            exact middle.needed_of_mem (first.justified justified needed) aroundMember
              (List.mem_append_left _ own)

end Import

end JvmGenerics
