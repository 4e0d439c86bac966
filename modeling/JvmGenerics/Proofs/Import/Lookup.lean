import JvmGenerics.Proofs.Import.Table

/-!
# Looking up classes

A lookup answers what the name means, and it leaves behind a sound state in which that
is settled. This carries over to everything that is made of lookups: the walk that
collects a lexical chain, and the questions of resolution.
-/

namespace JvmGenerics

namespace ImportState

variable {sources : ImportSources} {batch : List ClassInfo} {reported : List Diagnostic}
variable {state : ImportState}

def withEvents (state : ImportState) (events : List Event) : ImportState :=
  { state with events := events }

/-- A state in which one more name was asked for. -/
def asking (state : ImportState) (name : String) (events : List Event) : ImportState :=
  { state with
    requests := state.requests ++ [name]
    events := events }

theorem Sound.withEvents (sound : state.Sound sources batch reported) (events : List Event) :
    (state.withEvents events).Sound sources batch reported :=
  ⟨⟨sound.distinct, sound.declared, sound.layout, sound.diagnostics, sound.defects⟩,
    sound.known, sound.covered, sound.asked, sound.loaded⟩

theorem progress_withEvents (state : ImportState) (events : List Event) :
    state.Progress sources batch [] [] (state.withEvents events) :=
  ⟨⟨List.prefix_rfl, List.prefix_rfl, List.Subset.refl _, fun _ _ _ => rfl, id⟩, by simp,
    fun justified _ => ⟨justified.classes, justified.requests⟩⟩

theorem Sound.ne_of_class?_eq_none (sound : state.Sound sources batch reported) {name : String}
    (absent : state.class? name = none) : ∀ info ∈ batch, info.name ≠ name := by
  rintro info member rfl
  have isSome := sound.covered info member
  rw [absent] at isSome
  cases isSome

theorem Sound.asking (sound : state.Sound sources batch reported) {name : String}
    (allowed : sources.fallback = true) (absent : state.class? name = none)
    (nothing : sources.classNamed? batch name = none) (events : List Event) :
    (state.asking name events).Sound sources batch reported where
  distinct := sound.distinct
  declared := sound.declared
  layout := sound.layout
  diagnostics := sound.diagnostics
  defects := sound.defects
  known := sound.known
  covered := sound.covered
  asked other member := by
    rcases List.mem_append.mp member with member | single
    · exact sound.asked other member
    · obtain rfl := List.mem_singleton.mp single
      exact ⟨allowed, sound.ne_of_class?_eq_none absent, fun _ => nothing⟩
  loaded found member origin := List.mem_append_left _ (sound.loaded found member origin)

theorem grown_asking {name : String} (fresh : name ∉ state.requests) (events : List Event) :
    state.Grown [] (state.asking name events) where
  classes := List.prefix_rfl
  headers := List.prefix_rfl
  requests := List.subset_append_left _ _
  untouched _ _ _ := rfl
  unrepeated distinct := by
    rw [asking, List.nodup_append']
    exact ⟨distinct, List.nodup_singleton name, List.disjoint_singleton.mpr fresh⟩

theorem Sound.loading (sound : state.Sound sources batch reported) {name : String}
    {info : ClassInfo} (allowed : sources.fallback = true) (absent : state.class? name = none)
    (named : info.name = name)
    (means : sources.classNamed? batch name = some (.classpath, info)) (events : List Event) :
    ((state.asking name events).adding
      (info.declaredAt .classpath state.store.scopes.length)).Sound sources batch reported := by
  subst named
  set declared := info.declaredAt .classpath state.store.scopes.length
  have wellFormed : (state.asking info.name events).WellFormed reported :=
    ⟨sound.distinct, sound.declared, sound.layout, sound.diagnostics, sound.defects⟩
  have grown := grown_adding (state.asking info.name events) .classpath info
  have listed : declared ∈ ((state.asking info.name events).adding declared).classes :=
    List.mem_append_right _ (List.mem_singleton.mpr rfl)
  have present : ((state.asking info.name events).adding declared).class? info.name =
      some declared := (wellFormed.adding .classpath absent).class?_of_mem listed
  refine ⟨wellFormed.adding .classpath absent, ?_, ?_, ?_, ?_⟩
  · intro found member
    rcases List.mem_append.mp member with member | single
    · exact sound.known found member
    · obtain rfl := List.mem_singleton.mp single
      exact means
  · intro other member
    obtain ⟨found, isSome⟩ := Option.isSome_iff_exists.mp (sound.covered other member)
    exact Option.isSome_iff_exists.mpr ⟨found, grown.class?_eq_some isSome⟩
  · intro other member
    rcases List.mem_append.mp member with member | single
    · obtain ⟨allowed, outside, nothing⟩ := sound.asked other member
      exact ⟨allowed, outside, fun missing => nothing (grown.class?_eq_none missing)⟩
    · obtain rfl := List.mem_singleton.mp single
      refine ⟨allowed, sound.ne_of_class?_eq_none absent, fun missing => ?_⟩
      rw [present] at missing
      cases missing
  · intro found member origin
    rcases List.mem_append.mp member with member | single
    · exact List.mem_append_left _ (sound.loaded found member origin)
    · obtain rfl := List.mem_singleton.mp single
      exact List.mem_append_right _ (List.mem_singleton.mpr rfl)

theorem progress_asking {name : String} (fresh : name ∉ state.requests) (events : List Event) :
    state.Progress sources batch [name] [] (state.asking name events) where
  toGrown := grown_asking fresh events
  settled other member := by
    obtain rfl := List.mem_singleton.mp member
    exact Or.inr (Or.inr (List.mem_append_right _ (List.mem_singleton.mpr rfl)))
  justified justified needed := by
    refine ⟨justified.classes, fun other member => ?_⟩
    rcases List.mem_append.mp member with member | single
    · exact justified.requests other member
    · exact needed other single

theorem progress_loading {name : String} (fresh : name ∉ state.requests) {info : ClassInfo}
    (named : info.name = name) (events : List Event) :
    state.Progress sources batch [name] [] ((state.asking name events).adding
      (info.declaredAt .classpath state.store.scopes.length)) where
  toGrown := (grown_asking fresh events).trans (grown_adding _ _ _)
  settled other member := by
    have asked : state.Progress sources batch [name] [] (state.asking name events) :=
      progress_asking fresh events
    exact (asked.settled other member).mono (grown_adding _ _ _)
  justified justified needed := by
    have before := (progress_asking fresh events).justified justified needed
    refine ⟨fun found member => ?_, before.requests⟩
    rcases List.mem_append.mp member with member | single
    · exact before.classes found member
    · obtain rfl := List.mem_singleton.mp single
      exact needed info.name (List.mem_singleton.mpr named)

end ImportState

namespace Import

variable {sources : ImportSources} {batch : List ClassInfo} {reported : List Diagnostic}
variable {state : ImportState}

theorem log_run (event : Event) (state : ImportState) :
    (log event).run state = ((), state.withEvents (state.events ++ [event])) :=
  rfl

/-- A request either loads the class that is found under its own name, or it only leaves
a trace. -/
theorem requestClass_run (sources : ImportSources) (name : String) (state : ImportState) :
    match (sources.classpath.load name).filter fun info => info.name == name with
    | some info => ∃ events, (requestClass sources name).run state =
        (some ((declareClass .classpath info).run (state.asking name events)).1,
          ((declareClass .classpath info).run (state.asking name events)).2)
    | none => ∃ events, (requestClass sources name).run state =
        (none, state.asking name events) := by
  unfold requestClass Classpath.load
  cases answer : sources.classpath.read name with
  | error error => exact ⟨_, rfl⟩
  | ok found =>
    cases found with
    | none => exact ⟨_, rfl⟩
    | some info =>
      by_cases same : info.name = name
      · simp only [same, Option.filter_some, beq_self_eq_true, if_true]
        exact ⟨_, rfl⟩
      · simp only [same, Option.filter_some, beq_iff_eq, if_false]
        exact ⟨_, rfl⟩

end Import

namespace Import

variable {sources : ImportSources} {batch : List ClassInfo} {reported : List Diagnostic}
variable {state : ImportState}

open ImportState

theorem ensureClass_of_present (sources : ImportSources) {name : String} {found : DeclaredClass}
    (present : state.class? name = some found) :
    (ensureClass sources name).run state = (some found, state) := by
  have first : (get : Import ImportState).run state = (state, state) := rfl
  simp only [ensureClass, run_bind, first, present, run_pure]

theorem ensureClass_of_absent (sources : ImportSources) {name : String}
    (absent : state.class? name = none) :
    (ensureClass sources name).run state =
      if sources.fallback && !state.requests.contains name then
        (requestClass sources name).run state
      else (none, state) := by
  have first : (get : Import ImportState).run state = (state, state) := rfl
  simp only [ensureClass, run_bind, first, absent]
  split <;> rfl

/-- A lookup finds the class that the name means. -/
theorem ensureClass_spec (sound : state.Sound sources batch reported) (name : String) :
    let after := ((ensureClass sources name).run state).2
    ((ensureClass sources name).run state).1 = after.class? name ∧
      after.Sound sources batch reported ∧ state.Progress sources batch [name] [] after := by
  have stays (settled : state.Settled sources name) :
      state.Progress sources batch [name] [] state :=
    ⟨Grown.refl [] state, by simpa using settled, fun justified _ => justified⟩
  cases present : state.class? name with
  | some found =>
    simp only [ensureClass_of_present sources present]
    exact ⟨present.symm, sound, stays (Or.inl (present ▸ rfl))⟩
  | none =>
    have outside : batch.find? (fun info => info.name == name) = none := by
      rw [List.find?_eq_none]
      intro info member same
      exact sound.ne_of_class?_eq_none present info member (beq_iff_eq.mp same)
    simp only [ensureClass_of_absent sources present]
    by_cases ask : sources.fallback && !state.requests.contains name
    · simp only [ask, if_true]
      have allowed : sources.fallback = true := (Bool.and_eq_true_iff.mp ask).1
      have fresh : name ∉ state.requests := by simpa using (Bool.and_eq_true_iff.mp ask).2
      have effect := requestClass_run sources name state
      cases loaded : (sources.classpath.load name).filter fun info => info.name == name with
      | none =>
        rw [loaded] at effect
        obtain ⟨events, effect⟩ := effect
        have nothing : sources.classNamed? batch name = none := by
          simp [ImportSources.classNamed?, outside, allowed, loaded]
        simp only [effect]
        exact ⟨present.symm, sound.asking allowed present nothing events,
          progress_asking fresh events⟩
      | some info =>
        rw [loaded] at effect
        obtain ⟨events, effect⟩ := effect
        have named : info.name = name := by
          simpa using (Option.filter_eq_some_iff.mp loaded).2
        have means : sources.classNamed? batch name = some (.classpath, info) := by
          simp [ImportSources.classNamed?, outside, allowed, loaded]
        have unowned : ∀ owner ∈ (state.asking name events).owners,
            owner.className ≠ info.name := by
          rw [named]
          exact sound.toWellFormed.ne_of_class?_eq_none present
        have after := sound.loading allowed present named means events
        rw [declareClass_run .classpath unowned] at effect
        simp only [effect]
        refine ⟨?_, after, progress_loading fresh named events⟩
        have found := after.class?_of_mem (List.mem_append_right _ (List.mem_singleton.mpr rfl))
        rw [← named]
        exact found.symm
    · have settled : state.Settled sources name := by
        simp only [Bool.and_eq_true, Bool.not_eq_true', List.contains_eq_mem,
          decide_eq_false_iff_not, not_and, not_not] at ask
        by_cases allowed : sources.fallback = true
        · exact Or.inr (Or.inr (ask allowed))
        · exact Or.inr (Or.inl (by simpa using allowed))
      simp only [ask]
      exact ⟨present.symm, sound, stays settled⟩

end Import

/-- Where the class that a name means comes from. -/
def ImportSources.originOf (sources : ImportSources) (batch : List ClassInfo) (name : String) :
    Origin :=
  ((sources.classNamed? batch name).map Prod.fst).getD .unresolved

/-- The place of an import of `batch` as it is for all time, with the scopes of a given
chain and store. -/
def ImportSources.place (sources : ImportSources) (batch : List ClassInfo) (store : TypeStore)
    (chain : ScopeChain) : Surroundings Id where
  originOf name := sources.originOf batch name
  declaringScope name := chain.resolve store name

namespace Import

open ImportState

variable {sources : ImportSources} {batch : List ClassInfo} {reported : List Diagnostic}
variable {state : ImportState} {chain : ScopeChain}

theorem originOf_spec (sound : state.Sound sources batch reported) (chain : ScopeChain)
    (name : String) :
    let after := (((surroundings sources chain).originOf name).run state).2
    (((surroundings sources chain).originOf name).run state).1 = sources.originOf batch name ∧
      after.Sound sources batch reported ∧ state.Progress sources batch [name] [] after := by
  have ⟨found, after, progress⟩ := ensureClass_spec sound name
  have means := after.classNamed?_eq (progress.settled name (List.mem_singleton.mpr rfl))
  rw [← found] at means
  simp only [surroundings, run_bind, ImportSources.originOf, means]
  cases ((ensureClass sources name).run state).1 with
  | some declared => exact ⟨rfl, after, progress⟩
  | none =>
    exact ⟨rfl, after.withEvents _, progress.trans (progress_withEvents _ _)⟩

theorem declaringScope_spec (sound : state.Sound sources batch reported) (chain : ScopeChain)
    (name : String) :
    let after := (((surroundings sources chain).declaringScope name).run state).2
    (((surroundings sources chain).declaringScope name).run state).1 =
        chain.resolve state.store name ∧
      after.Sound sources batch reported ∧ state.Progress sources batch [] [] after := by
  have first : (get : Import ImportState).run state = (state, state) := rfl
  simp only [surroundings, run_bind, first]
  cases chain.resolve state.store name with
  | some scope => exact ⟨rfl, sound, Progress.refl [] state⟩
  | none => exact ⟨rfl, sound.withEvents _, progress_withEvents _ _⟩

theorem askEach_spec (sound : state.Sound sources batch reported) (chain : ScopeChain)
    (questions : List Question) :
    let after := (surroundings sources chain).askEach state questions
    after.Sound sources batch reported ∧
      state.Progress sources batch (questions.filterMap Question.className?) [] after := by
  induction questions generalizing state with
  | nil => exact ⟨sound, Progress.refl [] state⟩
  | cons question rest ih =>
    have ⟨middle, first⟩ : ((surroundings sources chain).ask state question).Sound sources batch
        reported ∧ state.Progress sources batch question.className?.toList []
          ((surroundings sources chain).ask state question) := by
      cases question with
      | origin name => exact (originOf_spec sound chain name).2
      | scope name => exact (declaringScope_spec sound chain name).2
    have ⟨after, second⟩ := ih middle
    refine ⟨after, ?_⟩
    have progress := first.trans second
    cases question <;> exact progress

/-- While the scopes of a chain are declared, its surroundings answer like a fixed place. -/
theorem surroundings_answersLike (sources : ImportSources) (batch : List ClassInfo)
    (touched : List ScopeId) {base : ImportState}
    (declared : ∀ scope ∈ chain, scope < base.store.scopes.length) :
    (surroundings sources chain).AnswersLike (sources.place batch base.store chain)
      fun state => (∃ reported, state.Sound sources batch reported) ∧ base.Grown touched state where
  originOf := by
    rintro state ⟨⟨reported, sound⟩, -⟩ name
    exact (originOf_spec sound chain name).1
  declaringScope := by
    rintro state ⟨⟨reported, sound⟩, grown⟩ name
    rw [(declaringScope_spec sound chain name).1]
    exact ScopeChain.resolve_eq_of_prefix grown.headers declared name
  ask := by
    rintro state ⟨⟨reported, sound⟩, grown⟩ question
    have ⟨after, progress⟩ := askEach_spec sound chain [question]
    exact ⟨⟨reported, after⟩, grown.trans (progress.toGrown.mono (List.nil_subset touched))⟩

end Import

end JvmGenerics
