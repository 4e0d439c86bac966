import JvmGenerics.Proofs.Import.Outcome

/-!
# What an import logs

Two kinds of events tell something that can be checked against the result: the answers of
the classpath, one for each request, and the misses, one for each question of resolution
that finds no class or no scope. An import never loses one of them and never logs one
twice, so the log of each of its parts follows from the questions of that part.
-/

namespace JvmGenerics

namespace Event

/-- Whether the event tells what the classpath has for a name. -/
def isAnswer : Event → Bool
  | loaded _ => true
  | differentClass _ _ => true
  | notFound _ => true
  | _ => false

/-- Whether the event tells that a name in a type means no class or no type parameter. -/
def isMiss : Event → Bool
  | unresolvedReference _ => true
  | stubVariable _ => true
  | _ => false

end Event

namespace Classpath

/-- The class found for a name, if it has that name. -/
def classOf? (classpath : Classpath) (name : String) : Option ClassInfo :=
  (classpath.load name).filter fun info => info.name == name

/-- The event that tells what is found for a name. -/
def answer (classpath : Classpath) (name : String) : Event :=
  match classpath.load name with
  | none => .notFound name
  | some info => if info.name = name then .loaded name else .differentClass name info.name

end Classpath

/-- The events of a question in a place that does not know the answer. -/
def Question.misses (place : Surroundings Id) : Question → List Event
  | origin name =>
    if (place.originOf name).run = .unresolved then [.unresolvedReference name] else []
  | scope name => if (place.declaringScope name).run = none then [.stubVariable name] else []

namespace ImportState

/-- Every request has its answer in the log, and every class that was found is in the
table, both in the order of the requests. -/
structure Recorded (classpath : Classpath) (state : ImportState) : Prop where
  answers : state.events.filter Event.isAnswer = state.requests.map classpath.answer
  loaded : (state.classes.filter fun found => found.origin == .classpath).map
    DeclaredClass.info = state.requests.filterMap classpath.classOf?

/-- Between two states, the given misses were logged, and nothing went unrecorded. -/
structure Logs (classpath : Classpath) (misses : List Event) (before after : ImportState) :
    Prop where
  misses : after.events.filter Event.isMiss = before.events.filter Event.isMiss ++ misses
  recorded : before.Recorded classpath → after.Recorded classpath

namespace Logs

variable {classpath : Classpath} {misses more : List Event}
variable {before middle after state : ImportState}

theorem refl (classpath : Classpath) (state : ImportState) : state.Logs classpath [] state :=
  ⟨(List.append_nil _).symm, id⟩

theorem trans (first : before.Logs classpath misses middle)
    (second : middle.Logs classpath more after) :
    before.Logs classpath (misses ++ more) after where
  misses := by rw [second.misses, first.misses, List.append_assoc]
  recorded := second.recorded ∘ first.recorded

/-- What was added to the table, to the requests and to the log decides. -/
theorem of_effects (added : List DeclaredClass) (asked : List String) (logged : List Event)
    (classes : after.classes = before.classes ++ added)
    (requests : after.requests = before.requests ++ asked)
    (events : after.events = before.events ++ logged)
    (answers : logged.filter Event.isAnswer = asked.map classpath.answer)
    (loaded : (added.filter fun found => found.origin == .classpath).map DeclaredClass.info =
      asked.filterMap classpath.classOf?) :
    before.Logs classpath (logged.filter Event.isMiss) after where
  misses := by rw [events, List.filter_append]
  recorded recorded := by
    refine ⟨?_, ?_⟩
    · rw [events, List.filter_append, answers, requests, List.map_append, recorded.answers]
    · rw [classes, List.filter_append, List.map_append, loaded, requests,
        List.filterMap_append, recorded.loaded]

/-- Any event may be logged, except for an answer that is not asked for. -/
theorem log (state : ImportState) (event : Event) (noAnswer : event.isAnswer = false) :
    state.Logs classpath ([event].filter Event.isMiss)
      (state.withEvents (state.events ++ [event])) :=
  of_effects [] [] [event] (List.append_nil _).symm (List.append_nil _).symm rfl
    (List.filter_cons_of_neg (Bool.eq_false_iff.mp noAnswer)) rfl

end Logs

end ImportState

theorem Verdict.filter_events {α : Type} {kind : Event → Bool}
    (malformed : ∀ element error, kind (.malformedSignature element error) = false)
    (refused : ∀ error, kind (.typeParametersIgnored error) = false)
    (owner : Owner) (verdict : Verdict α) : (verdict.events owner).filter kind = [] := by
  cases verdict <;> simp [events, malformed, refused]

theorem ClassInfo.filter_declarationEvents {kind : Event → Bool}
    (malformed : ∀ element error, kind (.malformedSignature element error) = false)
    (refused : ∀ error, kind (.typeParametersIgnored error) = false) (info : ClassInfo) :
    info.declarationEvents.filter kind = [] := by
  rw [declarationEvents, List.filter_append, Verdict.filter_events malformed refused,
    List.nil_append, List.filter_flatMap, List.flatMap_eq_nil_iff]
  exact fun method _ => Verdict.filter_events malformed refused _ method.2

theorem ClassInfo.noAnswer_declarationEvents (info : ClassInfo) :
    info.declarationEvents.filter Event.isAnswer = [] :=
  info.filter_declarationEvents (fun _ _ => rfl) fun _ => rfl

theorem ClassInfo.noMiss_declarationEvents (info : ClassInfo) :
    info.declarationEvents.filter Event.isMiss = [] :=
  info.filter_declarationEvents (fun _ _ => rfl) fun _ => rfl

namespace ImportState

variable {classpath : Classpath}

/-- A class of the batch is declared without a request. -/
theorem logs_adding (state : ImportState) (info : ClassInfo) (next : ScopeId) :
    state.Logs classpath [] (state.adding (info.declaredAt .imported next)) := by
  have logs : state.Logs classpath (info.declarationEvents.filter Event.isMiss)
      (state.adding (info.declaredAt .imported next)) :=
    Logs.of_effects [info.declaredAt .imported next] [] info.declarationEvents rfl
      (List.append_nil _).symm rfl info.noAnswer_declarationEvents rfl
  rwa [info.noMiss_declarationEvents] at logs

/-- A class that is found under its own name is declared at once. -/
theorem logs_loading {state : ImportState} {info : ClassInfo}
    (found : classpath.load info.name = some info) (next : ScopeId) :
    state.Logs classpath [] ((state.asking info.name
      (state.events ++ [.loaded info.name])).adding (info.declaredAt .classpath next)) := by
  have answer : classpath.answer info.name = .loaded info.name := by
    rw [Classpath.answer, found]
    exact if_pos rfl
  have classOf? : classpath.classOf? info.name = some info := by simp [Classpath.classOf?, found]
  have logs : state.Logs classpath ((.loaded info.name :: info.declarationEvents).filter
      Event.isMiss) ((state.asking info.name (state.events ++ [.loaded info.name])).adding
        (info.declaredAt .classpath next)) := by
    refine Logs.of_effects [info.declaredAt .classpath next] [info.name]
      (.loaded info.name :: info.declarationEvents) rfl rfl
      (List.append_assoc state.events [_] info.declarationEvents) ?_ ?_
    · rw [List.filter_cons_of_pos rfl, info.noAnswer_declarationEvents, List.map_singleton, answer]
    · rw [List.filterMap_cons_some classOf?]
      rfl
  rwa [List.filter_cons_of_neg Bool.false_ne_true, info.noMiss_declarationEvents] at logs

end ImportState

namespace Import

open ImportState

variable {sources : ImportSources} {batch : List ClassInfo} {reported : List Diagnostic}
variable {state : ImportState}

/-- A request leaves its answer in the log, and nothing that has not been there. -/
theorem requestClass_logs {name : String}
    (unowned : ∀ owner ∈ state.owners, owner.className ≠ name) :
    state.Logs sources.classpath [] ((requestClass sources name).run state).2 := by
  unfold requestClass
  cases read : sources.classpath.read name with
  | error error =>
    have load : sources.classpath.load name = none := by rw [Classpath.load, read]
    exact Logs.of_effects [] [name] [.unreadable name error, .notFound name]
      (List.append_nil _).symm rfl (List.append_assoc _ [_] [_])
      (by simp [Classpath.answer, load, Event.isAnswer])
      (by simp [Classpath.classOf?, load])
  | ok found =>
    have load : sources.classpath.load name = found := by rw [Classpath.load, read]
    cases found with
    | none =>
      exact Logs.of_effects [] [name] [.notFound name] (List.append_nil _).symm rfl rfl
        (by simp [Classpath.answer, load, Event.isAnswer])
        (by simp [Classpath.classOf?, load])
    | some info =>
      by_cases same : info.name = name
      · subst same
        let asking := state.asking info.name (state.events ++ [.loaded info.name])
        have unownedAsking : ∀ owner ∈ asking.owners, owner.className ≠ info.name := unowned
        simp only [if_true]
        change state.Logs _ _ ((declareClass .classpath info).run asking).2
        rw [declareClass_run .classpath unownedAsking]
        exact logs_loading load _
      · simp only [if_neg same]
        exact Logs.of_effects [] [name] [.differentClass name info.name]
          (List.append_nil _).symm rfl rfl
          (by simp [Classpath.answer, load, same, Event.isAnswer])
          (by simp [Classpath.classOf?, load, same])

/-- A lookup does not miss anything. -/
theorem ensureClass_logs (sound : state.Sound sources batch reported) (name : String) :
    state.Logs sources.classpath [] ((ensureClass sources name).run state).2 := by
  cases present : state.class? name with
  | some found =>
    rw [ensureClass_of_present sources present]
    exact Logs.refl _ state
  | none =>
    rw [ensureClass_of_absent sources present]
    split
    · exact requestClass_logs (sound.toWellFormed.ne_of_class?_eq_none present)
    · exact Logs.refl _ state

/-- The walk that collects a chain logs why it ended, but no misses. -/
theorem chainFrom_logs (rounds : Nat) (visited : List String) (declared : DeclaredClass)
    (sound : state.Sound sources batch reported) :
    state.Logs sources.classpath [] ((chainFrom sources rounds visited declared).run state).2 := by
  induction rounds generalizing state visited declared with
  | zero => exact Logs.refl _ state
  | succ rounds ih =>
    by_cases met : declared.name ∈ visited
    · rw [chainFrom_of_passed met]
      exact Logs.log state (.enclosingLoop declared.name) rfl
    cases enclosing : declared.info.enclosing with
    | none =>
      rw [chainFrom_of_alone met enclosing]
      exact Logs.refl _ state
    | some place =>
      cases isStatic : place.isStatic with
      | true =>
        rw [chainFrom_of_cut met enclosing isStatic]
        exact Logs.refl _ state
      | false =>
        have ⟨found, middle, _⟩ := ensureClass_spec sound place.className
        have first := ensureClass_logs sound place.className
        cases effect : (ensureClass sources place.className).run state with
        | mk result asked =>
        rw [effect] at middle first
        cases result with
        | none =>
          rw [chainFrom_of_missing met enclosing isStatic effect]
          exact first.trans (Logs.log asked (.enclosingMissing declared.name place.className) rfl)
        | some around =>
          rw [chainFrom_of_nested met enclosing isStatic effect]
          exact first.trans (ih _ _ middle)

end Import

theorem ImportSources.originOf_ne_unresolved {sources : ImportSources} {batch : List ClassInfo}
    {name : String} {origin : Origin} {info : ClassInfo}
    (means : sources.classNamed? batch name = some (origin, info)) :
    sources.originOf batch name ≠ .unresolved := by
  rw [originOf, means, Option.map_some, Option.getD_some]
  rcases origin_of_classNamed? means with rfl | rfl <;> simp

namespace Import

open ImportState

variable {sources : ImportSources} {batch : List ClassInfo} {reported : List Diagnostic}
variable {state : ImportState} {chain : ScopeChain}

theorem originOf_logs (sound : state.Sound sources batch reported) (store : TypeStore)
    (chain : ScopeChain) (name : String) :
    state.Logs sources.classpath
      ((Question.origin name).misses (sources.place batch store chain))
      (((surroundings sources chain).originOf name).run state).2 := by
  have ⟨found, after, progress⟩ := ensureClass_spec sound name
  have means := after.classNamed?_eq (progress.settled name (List.mem_singleton.mpr rfl))
  rw [← found] at means
  have logs := ensureClass_logs sound name
  have answer : ((sources.place batch store chain).originOf name).run =
      sources.originOf batch name := rfl
  rw [Question.misses, answer]
  simp only [surroundings, run_bind]
  cases present : ((ensureClass sources name).run state).1 with
  | some declared =>
    rw [present, Option.map_some] at means
    rw [if_neg (ImportSources.originOf_ne_unresolved means)]
    exact logs
  | none =>
    rw [present] at means
    rw [if_pos (by rw [ImportSources.originOf, means]; rfl)]
    exact logs.trans (Logs.log _ (.unresolvedReference name) rfl)

theorem declaringScope_logs (classpath : Classpath) (sources : ImportSources)
    (batch : List ClassInfo) (chain : ScopeChain) (name : String) (state : ImportState) :
    state.Logs classpath ((Question.scope name).misses (sources.place batch state.store chain))
      (((surroundings sources chain).declaringScope name).run state).2 := by
  have first : (get : Import ImportState).run state = (state, state) := rfl
  have answer : ((sources.place batch state.store chain).declaringScope name).run =
      chain.resolve state.store name := rfl
  rw [Question.misses, answer]
  simp only [surroundings, run_bind, first]
  cases chain.resolve state.store name with
  | some scope =>
    rw [if_neg (Option.some_ne_none scope)]
    exact Logs.refl classpath state
  | none =>
    rw [if_pos rfl]
    exact Logs.log state (.stubVariable name) rfl

/-- Questions are missed as the place of the import says, as long as the scopes of the
chain are declared. -/
theorem askEach_logs (sound : state.Sound sources batch reported)
    (visible : ∀ scope ∈ chain, scope < state.store.scopes.length) (questions : List Question) :
    state.Logs sources.classpath
      (questions.flatMap (Question.misses (sources.place batch state.store chain)))
      ((surroundings sources chain).askEach state questions) := by
  induction questions generalizing state with
  | nil => exact Logs.refl _ state
  | cons question rest ih =>
    have ⟨middle, progress⟩ := askEach_spec sound chain [question]
    have first : state.Logs sources.classpath
        (question.misses (sources.place batch state.store chain))
        ((surroundings sources chain).askEach state [question]) := by
      cases question with
      | origin name => exact originOf_logs sound state.store chain name
      | scope name => exact declaringScope_logs sources.classpath sources batch chain name state
    have others := ih middle fun scope listed =>
      Nat.lt_of_lt_of_le (visible scope listed) progress.scopes_le
    rw [place_eq visible progress.toGrown] at others
    exact first.trans others

theorem yields_logs {α : Type} {action : Import α} {value : α} {questions : List Question}
    (sound : state.Sound sources batch reported)
    (visible : ∀ scope ∈ chain, scope < state.store.scopes.length)
    (yields : (surroundings sources chain).Yields (fun later =>
      (∃ reported, later.Sound sources batch reported) ∧ state.Grown [] later)
        action value questions) :
    state.Logs sources.classpath
      (questions.flatMap (Question.misses (sources.place batch state.store chain)))
      (action.run state).2 := by
  rw [yields state ⟨⟨reported, sound⟩, Grown.refl [] state⟩]
  exact askEach_logs sound visible questions

/-- Filling in a scope logs what its bounds miss. -/
theorem completeScope_logs (sound : state.Sound sources batch reported)
    (visible : ∀ scope ∈ chain, scope < state.store.scopes.length) (scope : ScopeId)
    (parameters : List Signature.TypeParameter) :
    state.Logs sources.classpath
      ((parameters.flatMap Signature.TypeParameter.questions).flatMap
        (Question.misses (sources.place batch state.store chain)))
      ((completeScope (surroundings sources chain) scope parameters).run state).2 := by
  have asked := yields_logs sound visible (Surroundings.typeParameters_yields
    (surroundings_answersLike sources batch [] visible) parameters)
  rw [completeScope, run_bind]
  exact ⟨asked.misses, fun recorded =>
    ⟨(asked.recorded recorded).answers, (asked.recorded recorded).loaded⟩⟩

/-- An action that only asks questions, after a scope of a class in the table was filled
in. -/
theorem completeScope_yields_logs {α : Type} (sound : state.Sound sources batch reported)
    {declared : DeclaredClass} (member : declared ∈ state.classes) {header : ScopeHeader}
    (own : header ∈ declared.headers)
    (visible : ∀ scope ∈ chain, scope < state.store.scopes.length)
    {parameters : List Signature.TypeParameter}
    (names : header.names = parameters.map Signature.TypeParameter.name)
    {action : Import α} {value : Surroundings Id → α} {questions : List Question}
    (yields : ∀ {answers holds}, (surroundings sources chain).AnswersLike answers holds →
      (surroundings sources chain).Yields holds action (value answers) questions) :
    state.Logs sources.classpath
      ((parameters.flatMap Signature.TypeParameter.questions ++ questions).flatMap
        (Question.misses (sources.place batch state.store chain)))
      ((do
        completeScope (surroundings sources chain) header.scope parameters
        action : Import α).run state).2 := by
  have ⟨middle, progress, _⟩ := completeScope_spec header parameters sound visible
    (sound.mem_headers member own) (sound.nodup_of_mem_headers member own) names
  have first := completeScope_logs sound visible header.scope parameters
  rw [run_bind]
  generalize ((completeScope (surroundings sources chain) header.scope
    parameters).run state).2 = completed at *
  have visibleLater : ∀ scope ∈ chain, scope < completed.store.scopes.length :=
    fun scope listed => Nat.lt_of_lt_of_le (visible scope listed) progress.scopes_le
  have second := yields_logs middle visibleLater
    (yields (surroundings_answersLike sources batch [] visibleLater))
  rw [place_eq visible progress.toGrown] at second
  rw [List.flatMap_append]
  exact first.trans second

end Import

namespace ImportSources

variable (sources : ImportSources) (batch : List ClassInfo) (store : TypeStore)
variable (chain : ScopeChain)

/-- What the types of a method miss in a class with a given chain. -/
def methodMisses (declared : DeclaredMethod) : List Event :=
  (declared.info.typeQuestions declared.generics.signature?).flatMap
    (Question.misses (sources.place batch store (declared.generics.scope.toList ++ chain)))

/-- What the types of a class with a given chain miss, and those of its methods. -/
def classMisses (declared : DeclaredClass) : List Event :=
  (declared.info.typeQuestions declared.generics.signature?).flatMap
      (Question.misses (sources.place batch store chain)) ++
    declared.methods.flatMap (sources.methodMisses batch store chain)

end ImportSources

theorem ImportState.WellFormed.methodMisses_eq {sources : ImportSources} {batch : List ClassInfo}
    {reported : List Diagnostic} {state later : ImportState} {chain : ScopeChain}
    {touched : List ScopeId} (wellFormed : state.WellFormed reported)
    {declared : DeclaredClass} (member : declared ∈ state.classes) {methods : List DeclaredMethod}
    (own : ∀ method ∈ methods, method ∈ declared.methods)
    (visible : ∀ scope ∈ chain, scope < state.store.scopes.length)
    (grown : state.Grown touched later) :
    methods.flatMap (sources.methodMisses batch later.store chain) =
      methods.flatMap (sources.methodMisses batch state.store chain) := by
  refine List.flatMap_congr fun method listed => ?_
  rw [ImportSources.methodMisses, ImportSources.methodMisses,
    place_eq (wellFormed.visible_method member (own method listed) visible) grown]

theorem ImportState.WellFormed.classMisses_eq {sources : ImportSources} {batch : List ClassInfo}
    {reported : List Diagnostic} {state later : ImportState} {chain : ScopeChain}
    {touched : List ScopeId} (wellFormed : state.WellFormed reported)
    {declared : DeclaredClass} (member : declared ∈ state.classes)
    (visible : ∀ scope ∈ chain, scope < state.store.scopes.length)
    (grown : state.Grown touched later) :
    sources.classMisses batch later.store chain declared =
      sources.classMisses batch state.store chain declared := by
  rw [ImportSources.classMisses, ImportSources.classMisses, place_eq visible grown,
    wellFormed.methodMisses_eq member (fun _ own => own) visible grown]

namespace Import

open ImportState

variable {sources : ImportSources} {batch : List ClassInfo} {reported : List Diagnostic}
variable {state : ImportState} {chain : ScopeChain}

theorem resolveMethod_logs (sound : state.Sound sources batch reported)
    {declared : DeclaredClass} (member : declared ∈ state.classes) {method : DeclaredMethod}
    (own : method ∈ declared.methods)
    (visible : ∀ scope ∈ chain, scope < state.store.scopes.length) :
    state.Logs sources.classpath (sources.methodMisses batch state.store chain method)
      ((resolveMethod sources declared.name chain method).run state).2 := by
  have visibleInside := sound.visible_method member own visible
  have same := surroundings_answersLike sources batch [] visibleInside
  obtain ⟨info, generics⟩ := method
  cases generics with
  | erased =>
    cases parsed : MethodDescriptor.parse info.key.descriptor with
    | ok descriptor =>
      have questions : info.typeQuestions none = descriptor.questions := by
        rw [MethodInfo.typeQuestions, parsed]
      have logs := yields_logs sound visibleInside
        (Surroundings.erasedMethodTypes_yields same descriptor)
      rw [← questions] at logs
      simp only [resolveMethod, parsed]
      exact logs
    | error error =>
      have questions : info.typeQuestions none = [] := by
        rw [MethodInfo.typeQuestions, parsed]
      simp only [resolveMethod, parsed, ImportSources.methodMisses, MethodGenerics.signature?,
        questions]
      exact ⟨(List.append_nil _).symm, fun recorded => ⟨recorded.answers, recorded.loaded⟩⟩
  | plain signature =>
    obtain ⟨next, shape⟩ := sound.declared declared member
    rw [shape] at own
    have questions : info.typeQuestions (some signature) = signature.questions := by
      rw [MethodInfo.typeQuestions, ClassInfo.typeParameters_eq_nil own rfl]
      rfl
    have logs := yields_logs sound visibleInside (Surroundings.methodTypes_yields same signature)
    rw [← questions] at logs
    exact logs
  | generic scope signature =>
    have header : (⟨scope, .ofMethod declared.name info.key, signature.parameterNames⟩ :
        ScopeHeader) ∈ declared.headers := DeclaredClass.mem_headers_of_method own rfl
    have logs := completeScope_yields_logs sound member header visibleInside rfl
      fun same => Surroundings.methodTypes_yields same signature
    exact logs

theorem resolveMethods_logs {declared : DeclaredClass} {methods : List DeclaredMethod}
    (sound : state.Sound sources batch reported) (member : declared ∈ state.classes)
    (own : ∀ method ∈ methods, method ∈ declared.methods)
    (visible : ∀ scope ∈ chain, scope < state.store.scopes.length) :
    state.Logs sources.classpath (methods.flatMap (sources.methodMisses batch state.store chain))
      ((methods.mapM (resolveMethod sources declared.name chain)).run state).2 := by
  induction methods generalizing state reported with
  | nil => exact Logs.refl _ state
  | cons method rest ih =>
    rw [List.forall_mem_cons] at own
    have ⟨_, middle, progress, _⟩ := resolveMethod_spec sound member own.1 visible
    have first := resolveMethod_logs sound member own.1 visible
    rw [List.mapM_cons, run_bind]
    simp only [run_bind, run_pure]
    generalize ((resolveMethod sources declared.name chain method).run state).2 = next at *
    have others := ih middle (progress.classes.subset member) own.2 fun scope listed =>
      Nat.lt_of_lt_of_le (visible scope listed) progress.scopes_le
    rw [sound.methodMisses_eq member own.2 visible progress.toGrown] at others
    exact first.trans others

theorem resolveSupertypes_logs (sound : state.Sound sources batch reported)
    {declared : DeclaredClass} (member : declared ∈ state.classes)
    (visible : ∀ scope ∈ chain, scope < state.store.scopes.length) :
    state.Logs sources.classpath
      ((declared.info.typeQuestions declared.generics.signature?).flatMap
        (Question.misses (sources.place batch state.store chain)))
      ((resolveSupertypes sources chain declared).run state).2 := by
  cases generics : declared.generics with
  | erased scope =>
    rw [resolveSupertypes, generics]
    exact yields_logs sound visible (Surroundings.erasedSupertypes_yields
      (surroundings_answersLike sources batch [] visible) _ _)
  | generic scope signature =>
    rw [resolveSupertypes, generics]
    exact completeScope_yields_logs sound member (DeclaredClass.mem_headers_of_generic generics)
      visible rfl fun same => Surroundings.supertypes_yields same signature

/-- Resolving a class of the table logs what its types miss in its lexical chain. -/
theorem resolveClass_logs
    (limited : batch.length + sources.classpath.names.length ≤ sources.limit)
    (sound : state.Sound sources batch reported) {declared : DeclaredClass}
    (member : declared ∈ state.classes) :
    let after := ((resolveClass sources declared).run state).2
    ∃ chain, after.IsChain sources batch [] declared chain ∧
      state.Logs sources.classpath (sources.classMisses batch after.store chain declared)
        after := by
  obtain ⟨walked, first, lexical⟩ := chainFrom_spec limited (sources.limit + 1) sound member
    List.nodup_nil (List.nil_subset _) (by simp)
  have walkLogs := chainFrom_logs (sources.limit + 1) [] declared sound
  rw [resolveClass_run, lexicalChain]
  generalize (chainFrom sources (sources.limit + 1) [] declared).run state = walk at *
  obtain ⟨chain, base⟩ := walk
  have inBase := first.classes.subset member
  have visible := lexical.visible walked inBase
  obtain ⟨_, middle, second, _⟩ := resolveSupertypes_spec walked inBase visible
  have ownLogs := resolveSupertypes_logs walked inBase visible
  simp only at walkLogs ownLogs ⊢
  generalize ((resolveSupertypes sources chain declared).run base).2 = next at *
  have inNext := second.classes.subset inBase
  have visibleNext : ∀ scope ∈ chain, scope < next.store.scopes.length := fun scope listed =>
    Nat.lt_of_lt_of_le (visible scope listed) second.scopes_le
  have distinct := sound.nodup_scopes_of_mem member
  rw [List.nodup_append'] at distinct
  obtain ⟨_, _, third, _⟩ := resolveMethods_spec middle inNext (fun method own => own) distinct.2.1
    visibleNext
  have methodLogs := resolveMethods_logs middle inNext (fun method own => own) visibleNext
  generalize ((declared.methods.mapM (resolveMethod sources declared.name chain)).run next).2 =
    last at *
  have further := (second.toGrown.mono (List.subset_append_left _ _)).trans
    (third.toGrown.mono (List.subset_append_right declared.generics.scope.toList _))
  refine ⟨chain, ImportState.IsChain.mono lexical further, ?_⟩
  have logs := (walkLogs.trans ownLogs).trans methodLogs
  rw [List.nil_append,
    walked.methodMisses_eq inBase (fun _ own => own) visible second.toGrown] at logs
  rw [walked.classMisses_eq inBase visible further]
  exact logs

/-- Resolving the table from a given place on logs what the types of its classes miss, one
class after the other. -/
theorem resolveFrom_logs (rounds next : Nat)
    (limited : batch.length + sources.classpath.names.length ≤ sources.limit)
    (sound : state.Sound sources batch reported) (justified : state.Justified sources batch)
    (enough : sources.limit ≤ rounds + next) :
    let after := ((resolveFrom sources rounds next).run state).2
    ∃ logged, state.Logs sources.classpath logged.flatten after ∧
      List.Forall₂ (fun declared misses => ∃ chain, after.IsChain sources batch [] declared chain ∧
        misses = sources.classMisses batch after.store chain declared)
          (after.classes.drop next) logged := by
  induction rounds generalizing state reported next with
  | zero =>
    have classes := sound.length_classes_le
    have ended : state.classes.length ≤ next := by omega
    rw [resolveFrom_of_end (List.getElem?_eq_none ended)]
    refine ⟨[], Logs.refl _ state, ?_⟩
    rw [List.drop_eq_nil_of_le ended]
    exact .nil
  | succ rounds ih =>
    cases listed : state.classes[next]? with
    | none =>
      rw [resolveFrom_of_end listed]
      refine ⟨[], Logs.refl _ state, ?_⟩
      rw [List.drop_eq_nil_of_le (List.getElem?_eq_none_iff.mp listed)]
      exact .nil
    | some declared =>
      have member := List.mem_of_getElem? listed
      have ⟨middle, first, chain, resolved⟩ := resolveClass_spec limited sound member
      have needed (name : String) (need : name ∈ declared.info.needs) :=
        sound.needed_of_mem justified member need
      have justifiedLater := first.justified justified needed
      obtain ⟨ownChain, lexical, logs⟩ := resolveClass_logs limited sound member
      have rest := resolveFrom_spec rounds (next + 1) limited middle justifiedLater (by omega)
      obtain ⟨logged, others, entries⟩ := ih (next + 1) middle justifiedLater (by omega)
      rw [resolveFrom_of_class listed]
      simp only at lexical logs ⊢
      generalize ((resolveClass sources declared).run state).2 = base at *
      generalize (resolveFrom sources rounds (next + 1)).run base = later at *
      have inBase := first.classes.subset member
      have visible := lexical.visible middle inBase
      rw [← middle.classMisses_eq inBase visible rest.grown] at logs
      refine ⟨_ :: logged, logs.trans others, ?_⟩
      obtain ⟨bound, entry⟩ := List.getElem?_eq_some_iff.mp listed
      have kept := List.prefix_iff_getElem?.mp (first.classes.trans rest.grown.classes) next bound
      rw [List.drop_eq_getElem?_toList_append, kept, entry]
      exact .cons ⟨ownChain, ImportState.IsChain.mono lexical rest.grown, rfl⟩ entries

/-- Declaring a batch asks for nothing and misses nothing. -/
theorem declareBatch_logs (classpath : Classpath) (rest : List ClassInfo)
    (gathered : state.Gathered sources batch reported) :
    state.Logs classpath [] ((rest.forM declareBatchClass).run state).2 := by
  induction rest generalizing state batch reported with
  | nil => exact Logs.refl classpath state
  | cons info rest ih =>
    have step : ((info :: rest).forM declareBatchClass).run state =
        (rest.forM declareBatchClass).run ((declareBatchClass info).run state).2 := rfl
    have ⟨_, after⟩ := declareBatchClass_gathered gathered info
    have others := ih after
    rw [step]
    suffices first : state.Logs classpath [] ((declareBatchClass info).run state).2 from
      first.trans others
    cases present : state.class? info.name with
    | some found =>
      rw [declareBatchClass_of_present present]
      exact Logs.of_effects [] [] [.duplicateClass info.name] (List.append_nil _).symm
        (List.append_nil _).symm rfl rfl rfl
    | none =>
      rw [declareBatchClass_of_absent present
        (gathered.toWellFormed.ne_of_class?_eq_none present)]
      exact logs_adding state info state.store.scopes.length

end Import

theorem ImportState.recorded_start (classpath : Classpath) : start.Recorded classpath :=
  ⟨rfl, rfl⟩

/-- When every class is resolved, all requests are recorded, and all misses are those of the
classes in the order of the table. -/
theorem ImportOptions.lastState_logs (options : ImportOptions) (classpath : Classpath)
    (batch : List ClassInfo) :
    let sources := options.sources classpath batch
    let state := options.lastState classpath batch
    state.Recorded classpath ∧ ∃ logged, state.events.filter Event.isMiss = logged.flatten ∧
      List.Forall₂ (fun declared misses => ∃ chain, state.IsChain sources batch [] declared chain ∧
        misses = sources.classMisses batch state.store chain declared) state.classes logged := by
  intro sources state
  have ⟨gathered, _⟩ := ImportState.ofBatch_spec sources batch
  have declared : ImportState.start.Logs classpath [] (.ofBatch batch) :=
    Import.declareBatch_logs classpath batch (ImportState.gathered_start sources)
  obtain ⟨logged, resolved, entries⟩ := Import.resolveFrom_logs sources.limit 0 (Nat.le_refl _)
    gathered.toSound gathered.toJustified (Nat.le_refl _)
  have logs := declared.trans resolved
  exact ⟨logs.recorded (ImportState.recorded_start classpath), logged, logs.misses, entries⟩

/-- The last event of an import counts what was declared and reported. -/
theorem importClasses_events (options : ImportOptions) (classpath : Classpath)
    (batch : List ClassInfo) :
    let state := options.lastState classpath batch
    let fromBatch := (ImportState.ofBatch batch).classes.length
    (importClasses options classpath batch).events = state.events ++
      [.finished fromBatch (state.classes.length - fromBatch) state.diagnostics.length] :=
  rfl

end JvmGenerics
