import JvmGenerics.Proofs.Import.ClassTable
import JvmGenerics.Proofs.Import.Origins

/-!
# The event log of an import

The log tells what happened to the result. Every answer of the classpath is in it, in the
order of the requests, and so is every stub and every unresolved reference that a published
type holds, in the order in which the types are published.
-/

namespace JvmGenerics

/-- The event of a reference to a class that is not there. -/
def ClassRef.misses (reference : ClassRef) : List Event :=
  if reference.origin = .unresolved then [.unresolvedReference reference.name] else []

/-- The event of a use of a type parameter that is not there. -/
def TypeVariable.misses (reference : TypeVariable) : List Event :=
  if reference.scope = none then [.stubVariable reference.name] else []

namespace JavaType

mutual

/-- The events of the classes and of the type parameters that a type names in vain, from
left to right. -/
def misses : JavaType → List Event
  | classRef reference => reference.misses
  | parameterized raw arguments => raw.misses ++ missesEach arguments
  | typeVariable reference => reference.misses
  | wildcard upper lower => missesEach upper ++ missesEach lower
  | genericArray element _ => element.misses
termination_by structural type => type

/-- The events of what some types name in vain. -/
def missesEach : List JavaType → List Event
  | [] => []
  | type :: rest => type.misses ++ missesEach rest
termination_by structural types => types

end

theorem missesEach_eq_flatMap (types : List JavaType) :
    missesEach types = types.flatMap misses := by
  induction types with
  | nil => rfl
  | cons type rest ih => simp [missesEach, ih]

/-- Whether a type is an array does not matter to what it misses. -/
theorem misses_arrayOf (type : JavaType) (dimensions : Nat) :
    (type.arrayOf dimensions).misses = type.misses := by
  unfold arrayOf
  split
  · rfl
  · cases type <;> rfl

end JavaType

namespace Event

def isStub : Event → Bool
  | stubVariable _ => true
  | _ => false

def isUnresolved : Event → Bool
  | unresolvedReference _ => true
  | _ => false

def isLoaded : Event → Bool
  | loaded _ => true
  | _ => false

theorem isMiss_of_isStub {event : Event} (isStub : event.isStub = true) :
    event.isMiss = true := by
  cases event with
  | stubVariable name => rfl
  | _ => cases isStub

theorem isMiss_of_isUnresolved {event : Event} (isUnresolved : event.isUnresolved = true) :
    event.isMiss = true := by
  cases event with
  | unresolvedReference name => rfl
  | _ => cases isUnresolved

theorem isAnswer_of_isLoaded {event : Event} (isLoaded : event.isLoaded = true) :
    event.isAnswer = true := by
  cases event with
  | loaded name => rfl
  | _ => cases isLoaded

/-- Events of a kind can be looked for among those of a wider kind. -/
theorem filter_of_kind {kind wider : Event → Bool}
    (among : ∀ {event}, kind event = true → wider event = true) (events : List Event) :
    events.filter kind = (events.filter wider).filter kind := by
  rw [List.filter_filter]
  refine List.filter_congr fun event _ => ?_
  cases isKind : kind event with
  | true => rw [among isKind, Bool.and_self]
  | false => rfl

end Event

theorem ClassRef.filter_isStub_misses (reference : ClassRef) :
    reference.misses.filter Event.isStub = [] := by
  unfold misses
  split <;> rfl

theorem ClassRef.filter_isUnresolved_misses (reference : ClassRef) :
    reference.misses.filter Event.isUnresolved =
      ([reference].filter fun reference => reference.origin == .unresolved).map
        fun reference => .unresolvedReference reference.name := by
  unfold misses
  split
  · next missing => simp [missing, Event.isUnresolved]
  · next known => simp [known]

theorem TypeVariable.filter_isStub_misses (reference : TypeVariable) :
    reference.misses.filter Event.isStub =
      ([reference].filter isStub).map fun reference => .stubVariable reference.name := by
  unfold misses
  split
  · next missing => simp [missing, isStub, Event.isStub]
  · next bound => simp [bound, isStub]

theorem TypeVariable.filter_isUnresolved_misses (reference : TypeVariable) :
    reference.misses.filter Event.isUnresolved = [] := by
  unfold misses
  split <;> rfl

namespace JavaType

mutual

/-- Among the misses of a type, the stubs are those of its uses of type parameters. -/
theorem filter_isStub_misses : ∀ type : JavaType, type.misses.filter Event.isStub =
    (type.occurrences.filter TypeVariable.isStub).map fun reference =>
      .stubVariable reference.name
  | classRef reference => reference.filter_isStub_misses
  | parameterized raw arguments => by
    rw [misses, List.filter_append, raw.filter_isStub_misses, List.nil_append,
      filter_isStub_missesEach arguments, occurrences]
  | typeVariable reference => reference.filter_isStub_misses
  | wildcard upper lower => by
    rw [misses, occurrences, List.filter_append, List.filter_append, List.map_append,
      filter_isStub_missesEach upper, filter_isStub_missesEach lower]
  | genericArray element _ => filter_isStub_misses element
termination_by structural type => type

theorem filter_isStub_missesEach : ∀ types : List JavaType,
    (missesEach types).filter Event.isStub =
      ((occurrencesEach types).filter TypeVariable.isStub).map fun reference =>
        .stubVariable reference.name
  | [] => rfl
  | type :: rest => by
    rw [missesEach, occurrencesEach, List.filter_append, List.filter_append, List.map_append,
      filter_isStub_misses type, filter_isStub_missesEach rest]
termination_by structural types => types

end

mutual

/-- Among the misses of a type, the references are those of its unresolved classes. -/
theorem filter_isUnresolved_misses : ∀ type : JavaType, type.misses.filter Event.isUnresolved =
    (type.references.filter fun reference => reference.origin == .unresolved).map
      fun reference => .unresolvedReference reference.name
  | classRef reference => reference.filter_isUnresolved_misses
  | parameterized raw arguments => by
    rw [misses, references, ← List.singleton_append, List.filter_append, List.filter_append,
      List.map_append, raw.filter_isUnresolved_misses, filter_isUnresolved_missesEach arguments]
  | typeVariable reference => reference.filter_isUnresolved_misses
  | wildcard upper lower => by
    rw [misses, references, List.filter_append, List.filter_append, List.map_append,
      filter_isUnresolved_missesEach upper, filter_isUnresolved_missesEach lower]
  | genericArray element _ => filter_isUnresolved_misses element
termination_by structural type => type

theorem filter_isUnresolved_missesEach : ∀ types : List JavaType,
    (missesEach types).filter Event.isUnresolved =
      ((referencesEach types).filter fun reference => reference.origin == .unresolved).map
        fun reference => .unresolvedReference reference.name
  | [] => rfl
  | type :: rest => by
    rw [missesEach, referencesEach, List.filter_append, List.filter_append, List.map_append,
      filter_isUnresolved_misses type, filter_isUnresolved_missesEach rest]
termination_by structural types => types

end

end JavaType

theorem JavaType.filter_isStub_flatMap (types : List JavaType) :
    (types.flatMap misses).filter Event.isStub =
      ((types.flatMap occurrences).filter TypeVariable.isStub).map fun reference =>
        .stubVariable reference.name := by
  rw [← missesEach_eq_flatMap, ← occurrencesEach_eq_flatMap, filter_isStub_missesEach]

theorem JavaType.filter_isUnresolved_flatMap (types : List JavaType) :
    (types.flatMap misses).filter Event.isUnresolved =
      ((types.flatMap references).filter fun reference => reference.origin == .unresolved).map
        fun reference => .unresolvedReference reference.name := by
  rw [← missesEach_eq_flatMap, ← referencesEach_eq_flatMap, filter_isUnresolved_missesEach]

namespace Surroundings

open Signature

variable (place : Surroundings Id)

theorem misses_classRef (name : String) :
    (place.classRef name).run.misses = (Question.origin name).misses place :=
  rfl

theorem misses_withArguments (raw : ClassRef) (arguments : List JavaType) :
    (withArguments raw arguments).misses = raw.misses ++ JavaType.missesEach arguments := by
  cases arguments with
  | nil => exact (List.append_nil _).symm
  | cons first rest => rfl

theorem misses_withVariance (variance : Variance) (type : JavaType) :
    (withVariance variance type).misses = type.misses := by
  cases variance <;> simp [withVariance, JavaType.misses, JavaType.missesEach]

mutual

/-- A resolved class type misses what its questions miss. -/
theorem misses_classType : ∀ type : ClassType,
    (place.classType type).run.misses = type.questions.flatMap (Question.misses place)
  | .topLevel _ _ arguments => by
    rw [ClassType.questions, List.flatMap_cons, ← misses_typeArguments arguments,
      ← misses_classRef, ← misses_withArguments]
    rfl
  | .member _ _ arguments => by
    rw [ClassType.questions, List.flatMap_cons, ← misses_typeArguments arguments,
      ← misses_classRef, ← misses_withArguments]
    rfl
termination_by structural type => type

theorem misses_referenceType : ∀ type : ReferenceType,
    (place.referenceType type).run.misses = type.questions.flatMap (Question.misses place)
  | .classType type => misses_classType type
  | .typeVariable _ => (List.append_nil _).symm
  | .array dimensions component =>
    (JavaType.misses_arrayOf _ dimensions).trans (misses_typeSignature component)
termination_by structural type => type

theorem misses_typeSignature : ∀ type : TypeSignature,
    (place.typeSignature type).run.misses = type.questions.flatMap (Question.misses place)
  | .base _ => rfl
  | .reference type => misses_referenceType type
termination_by structural type => type

theorem misses_typeArguments : ∀ arguments : List TypeArgument,
    JavaType.missesEach (place.typeArguments arguments).run =
      (TypeArgument.questionsEach arguments).flatMap (Question.misses place)
  | [] => rfl
  | .any :: rest => misses_typeArguments rest
  | .bounded variance type :: rest => by
    rw [TypeArgument.questionsEach, List.flatMap_append, ← misses_referenceType type,
      ← misses_typeArguments rest, ← misses_withVariance variance]
    rfl
termination_by structural arguments => arguments

end

theorem misses_map {α : Type} {type : α → JavaType} {questions : α → List Question}
    (same : ∀ entry, (type entry).misses = (questions entry).flatMap (Question.misses place))
    (list : List α) : (list.map type).flatMap JavaType.misses =
      (list.flatMap questions).flatMap (Question.misses place) := by
  rw [List.flatMap_map, List.flatMap_assoc]
  exact List.flatMap_congr fun entry _ => same entry

theorem misses_bounds (parameter : Signature.TypeParameter) :
    (place.bounds parameter).run.flatMap JavaType.misses =
      parameter.questions.flatMap (Question.misses place) := by
  rw [bounds_run]
  unfold Signature.TypeParameter.questions
  cases parameter.bounds with
  | nil => rfl
  | cons first rest => exact place.misses_map place.misses_referenceType (first :: rest)

/-- The bounds of type parameters miss what their questions miss. -/
theorem misses_parametersOf (parameters : List Signature.TypeParameter) :
    ((place.parametersOf parameters).flatMap TypeParameter.bounds).flatMap JavaType.misses =
      (parameters.flatMap Signature.TypeParameter.questions).flatMap (Question.misses place) := by
  rw [parametersOf, List.flatMap_map, List.flatMap_assoc, List.flatMap_assoc]
  exact List.flatMap_congr fun parameter _ => place.misses_bounds parameter

theorem misses_fieldType (type : FieldType) :
    (place.fieldType type).run.misses = type.questions.flatMap (Question.misses place) := by
  unfold fieldType FieldType.questions
  cases type.element with
  | base base =>
    change ((JavaType.classRef (ClassRef.ofBase base)).arrayOf type.dimensions).misses = []
    rw [JavaType.misses_arrayOf]
    rfl
  | object internalName =>
    change ((JavaType.classRef (place.classRef (binaryOfInternal internalName)).run).arrayOf
      type.dimensions).misses = _ ++ []
    rw [JavaType.misses_arrayOf, List.append_nil]
    rfl

theorem misses_erasedSupertypes (superclass : Option String) (interfaces : List String) :
    (place.erasedSupertypes superclass interfaces).run.all.flatMap JavaType.misses =
      ((superclass.toList ++ interfaces).map Question.origin).flatMap
        (Question.misses place) := by
  have types : (place.erasedSupertypes superclass interfaces).run.all =
      (superclass.toList ++ interfaces).map fun name => .classRef (place.classRef name).run := by
    rw [erasedSupertypes_run, Supertypes.all, Option.toList_map, List.map_append]
  rw [types, List.flatMap_map, List.flatMap_map]
  exact List.flatMap_congr fun name _ => place.misses_classRef name

/-- The types of a class miss what their questions miss, bounds first. -/
theorem misses_supertypesOf (info : ClassInfo) (kept : Option ClassSignature) :
    ((place.parametersOf (ClassSignature.parametersOf kept)).flatMap TypeParameter.bounds ++
      (place.supertypesOf info kept).all).flatMap JavaType.misses =
        (info.typeQuestions kept).flatMap (Question.misses place) := by
  cases kept with
  | some signature =>
    have types : (place.supertypesOf info (some signature)).all =
        (signature.superclass :: signature.interfaces).map fun type =>
          (place.classType type).run := by
      rw [supertypesOf, supertypes_run]
      rfl
    rw [List.flatMap_append, misses_parametersOf, types, place.misses_map place.misses_classType,
      ClassInfo.typeQuestions, List.flatMap_append]
    rfl
  | none => exact place.misses_erasedSupertypes info.superclass info.interfaces

theorem misses_erasedMethodTypes (descriptor : MethodDescriptor) :
    (place.erasedMethodTypes descriptor).run.all.flatMap JavaType.misses =
      descriptor.questions.flatMap (Question.misses place) := by
  rw [erasedMethodTypes_run, MethodTypes.all, Option.toList_map, List.append_nil,
    List.flatMap_append, place.misses_map place.misses_fieldType,
    place.misses_map place.misses_fieldType, MethodDescriptor.questions, List.flatMap_append]

/-- The types of a method miss what their questions miss, bounds first. -/
theorem misses_methodTypesOf (info : MethodInfo) (kept : Option MethodSignature) :
    ((place.parametersOf (MethodSignature.parametersOf kept)).flatMap TypeParameter.bounds ++
      (place.methodTypesOf info kept).all).flatMap JavaType.misses =
        (info.typeQuestions kept).flatMap (Question.misses place) := by
  cases kept with
  | some signature =>
    rw [List.flatMap_append, misses_parametersOf, methodTypesOf, methodTypes_run, MethodTypes.all,
      Option.toList_map, List.flatMap_append, List.flatMap_append,
      place.misses_map place.misses_typeSignature, place.misses_map place.misses_typeSignature,
      place.misses_map place.misses_referenceType, MethodInfo.typeQuestions,
      MethodSignature.questions, List.flatMap_append, List.flatMap_append, List.flatMap_append]
    rfl
  | none =>
    rw [methodTypesOf, MethodInfo.typeQuestions]
    cases MethodDescriptor.parse info.key.descriptor with
    | error error => rfl
    | ok descriptor => exact place.misses_erasedMethodTypes descriptor

end Surroundings

theorem Question.misses_congr {first second : Surroundings Id} {question : Question}
    (same : Surroundings.ChangesOn id first second question) :
    question.misses second = question.misses first := by
  cases question with
  | origin name =>
    have same : (second.originOf name).run = (first.originOf name).run := same
    rw [misses, misses, same]
  | scope name =>
    have same : (first.declaringScope name).run = (second.declaringScope name).run := same
    rw [misses, misses, same]

namespace Imported.Outcome

variable {sources : ImportSources} {batch : List ClassInfo} {imported : Imported}
variable {state : ImportState} {chain : ScopeChain}

/-- The bounds and the types of a published method miss what was logged for them. -/
theorem misses_method (outcome : imported.Outcome sources batch state)
    {declared : DeclaredClass} (member : declared ∈ state.classes) {published : ImportedClass}
    (resolved : state.Resolved sources batch chain declared published) {method : DeclaredMethod}
    (own : method ∈ declared.methods) :
    ((sources.resolvedMethod batch state.store chain method).allTypes imported).flatMap
      JavaType.misses = sources.methodMisses batch state.store chain method := by
  have resolvedIn := outcome.methodResolvedIn member resolved own
  rw [ImportedMethod.allTypes, resolvedIn.types, resolvedIn.parameters,
    Surroundings.misses_methodTypesOf, outcome.signature?_method_eq member own,
    ImportSources.methodMisses]
  exact List.flatMap_congr fun question asked => Question.misses_congr
    (outcome.changesOn_view _ (outcome.settled_of_methodQuestion member resolved own asked))

/-- The types of a published class miss what was logged for them. -/
theorem misses_class (outcome : imported.Outcome sources batch state)
    {declared : DeclaredClass} (member : declared ∈ state.classes) {published : ImportedClass}
    (resolved : state.Resolved sources batch chain declared published) :
    (published.allTypes imported).flatMap JavaType.misses =
      sources.classMisses batch state.store chain declared := by
  have resolvedIn := outcome.resolvedIn member resolved
  have methods : published.methods =
      declared.methods.map (sources.resolvedMethod batch state.store chain) := by
    rw [resolved.value]
    rfl
  rw [ImportedClass.allTypes, List.flatMap_append, resolvedIn.supertypes, resolvedIn.parameters,
    Surroundings.misses_supertypesOf, outcome.signature?_eq member resolved, methods, resolved.info_eq,
    List.flatMap_map, List.flatMap_assoc, ImportSources.classMisses]
  congr 1
  · exact List.flatMap_congr fun question asked => Question.misses_congr
      (outcome.changesOn_view _ (outcome.settled_of_typeQuestion member resolved asked))
  · exact List.flatMap_congr fun method own => outcome.misses_method member resolved own

/-- All misses in the log are those of the published types, in the order of the table. -/
theorem filter_isMiss (outcome : imported.Outcome sources batch state) {logged : List (List Event)}
    (entries : List.Forall₂ (fun declared misses => ∃ chain,
      state.IsChain sources batch [] declared chain ∧
        misses = sources.classMisses batch state.store chain declared) state.classes logged) :
    logged.flatten = (imported.classes.flatMap fun published =>
      published.allTypes imported).flatMap JavaType.misses := by
  have pairs := forall₂_through (List.forall₂_same.mpr fun _ _ => rfl) outcome.resolved_mem entries
  rw [List.flatMap_assoc, ← List.flatMap_id]
  refine (flatMap_eq_of_forall₂ pairs ?_).symm
  rintro published misses ⟨declared, _, rfl, ⟨member, chain, resolved⟩, other, lexical, rfl⟩
  -- Both the types and the log speak of the one lexical chain of the class.
  have same : other = chain :=
    (lexical outcome.sound (ImportState.Grown.refl [] state)).unique (outcome.lexical resolved)
  rw [same]
  exact outcome.misses_class member resolved

end Imported.Outcome

namespace Imported

variable (imported : Imported)

theorem occurrences_eq : imported.occurrences = (imported.classes.flatMap fun published =>
    published.allTypes imported).flatMap JavaType.occurrences := by
  have method (published : ImportedMethod) : published.occurrences imported =
      (published.allTypes imported).flatMap JavaType.occurrences := by
    simp only [ImportedMethod.occurrences, ImportedMethod.allTypes, MethodTypes.occurrences,
      MethodTypes.all, List.flatMap_append, List.flatMap_assoc]
    rfl
  rw [occurrences, List.flatMap_assoc]
  refine List.flatMap_congr fun published _ => ?_
  simp only [ImportedClass.occurrences, ImportedClass.allTypes, Supertypes.occurrences,
    Supertypes.all, List.flatMap_append, List.flatMap_assoc, method]
  rfl

end Imported

/-- The events of a result that have one of some messages. -/
def Imported.told (imported : Imported) (messages : List String) : List Event :=
  imported.events.filter fun event => messages.contains event.message

namespace Event

/-- The message of a malformed signature tells of its element, but it begins with a letter of
its own. -/
theorem contains_message_malformedSignature {messages : List String}
    (others : ∀ message ∈ messages, message.toList.head? ≠ some 'm') (element : Owner)
    (error : Signature.ParseError) :
    messages.contains (malformedSignature element error).message = false := by
  have first : (malformedSignature element error).message.toList.head? = some 'm' := by
    unfold message
    simp only [String.toList_append]
    rfl
  rw [List.contains_eq_mem, decide_eq_false_iff_not]
  exact fun member => others _ member first

/-- The messages tell the kinds of events apart. -/
theorem contains_message_eq (event : Event) :
    ["loaded class from classpath", "classpath returned a different class",
        "class not found on classpath"].contains event.message = event.isAnswer ∧
      ["loaded class from classpath"].contains event.message = event.isLoaded ∧
      ["no enclosing scope declares type variable; using a stub"].contains event.message =
        event.isStub ∧
      ["unresolved class reference"].contains event.message = event.isUnresolved := by
  cases event with
  | malformedSignature element error =>
    have absent {messages : List String}
        (others : ∀ message ∈ messages, message.toList.head? ≠ some 'm') :=
      contains_message_malformedSignature others element error
    exact ⟨absent (by decide), absent (by decide), absent (by decide), absent (by decide)⟩
  | _ =>
    unfold message
    simp [isAnswer, isLoaded, isStub, isUnresolved]

/-- Of the answers, those that tell of a class are about the classes that are found. -/
theorem filter_isLoaded (classpath : Classpath) (names : List String) :
    (names.map classpath.answer).filter isLoaded =
      (names.filterMap classpath.classOf?).map fun info => .loaded info.name := by
  induction names with
  | nil => rfl
  | cons name rest ih =>
    rw [List.map_cons, List.filter_cons, ih, List.filterMap_cons]
    unfold Classpath.answer Classpath.classOf?
    cases classpath.load name with
    | none => rfl
    | some info =>
      by_cases same : info.name = name <;> simp [Option.filter_some, same, isLoaded]

end Event

/-- The last event is none of those that are counted. -/
theorem importClasses_filter_events (options : ImportOptions) (classpath : Classpath)
    (batch : List ClassInfo) {kind : Event → Bool}
    (others : ∀ fromBatch fromClasspath diagnostics,
      kind (.finished fromBatch fromClasspath diagnostics) = false) :
    (importClasses options classpath batch).events.filter kind =
      (options.lastState classpath batch).events.filter kind := by
  rw [importClasses_events, List.filter_append, List.filter_cons_of_neg (by simp [others]),
    List.filter_nil, List.append_nil]

namespace Imported.Outcome

variable {sources : ImportSources} {batch : List ClassInfo} {imported : Imported}
variable {state : ImportState}

/-- The classes of one origin are the same in the result and in the last state. -/
theorem filter_origin (outcome : imported.Outcome sources batch state) (origin : Origin) :
    (imported.classes.filter fun published => published.origin == origin).map
        ImportedClass.info =
      (state.classes.filter fun found => found.origin == origin).map DeclaredClass.info := by
  have entries := congrArg (fun entries => (entries.filter fun entry : Origin × ClassInfo =>
    entry.1 == origin).map Prod.snd) outcome.entries_eq
  simpa [Imported.entries, List.filter_map, Function.comp_def] using entries

theorem length_classes (outcome : imported.Outcome sources batch state) :
    (imported.classes.filter fun published => published.origin == .imported).length +
      (imported.classes.filter ImportedClass.isFromClasspath).length =
        imported.classes.length := by
  have others : imported.classes.filter ImportedClass.isFromClasspath =
      imported.classes.filter fun published => !(published.origin == .imported) := by
    refine List.filter_congr fun published member => ?_
    rcases outcome.origin_of_mem member with ⟨origin, -⟩ | ⟨origin, -⟩ <;>
      simp [ImportedClass.isFromClasspath, origin]
  rw [others]
  exact (List.length_eq_length_filter_add _).symm

end Imported.Outcome

/-- The last event counts the classes of each origin and the diagnostics. -/
theorem importClasses_getLast? (options : ImportOptions) (classpath : Classpath)
    (batch : List ClassInfo) :
    let imported := importClasses options classpath batch
    imported.events.getLast? = some (.finished
      (imported.classes.filter fun published => published.origin == .imported).length
      (imported.classes.filter ImportedClass.isFromClasspath).length
      imported.diagnostics.length) := by
  intro imported
  have outcome := importClasses_outcome_lastState options classpath batch
  have total : imported.classes.length = (options.lastState classpath batch).classes.length :=
    outcome.resolved.length_eq.symm
  have fromBatch := congrArg List.length (outcome.filter_origin .imported)
  rw [List.length_map, List.length_map, outcome.filter_imported] at fromBatch
  have sum := outcome.length_classes
  rw [importClasses_events, List.getLast?_concat, ← fromBatch, ← total, ← sum,
    Nat.add_sub_cancel_left, outcome.diagnostics]

/-- The log is a faithful record: it has one answer for each request, with the name that was
asked for and what was found, and the classes found are those of the table. The stubs and
the unresolved references in it are those of the published types, and at last it counts the
classes and the diagnostics. -/
theorem events_faithful (options : ImportOptions) (classpath : Classpath)
    (batch : List ClassInfo) :
    let imported := importClasses options classpath batch
    imported.told ["loaded class from classpath", "classpath returned a different class",
        "class not found on classpath"] = imported.requests.map classpath.answer ∧
      imported.told ["loaded class from classpath"] =
        ((imported.classes.filter ImportedClass.isFromClasspath).map fun published =>
          .loaded published.name) ∧
      imported.told ["no enclosing scope declares type variable; using a stub"] =
        ((imported.occurrences.filter TypeVariable.isStub).map fun reference =>
          .stubVariable reference.name) ∧
      imported.told ["unresolved class reference"] =
        ((imported.references.filter fun reference => reference.origin == .unresolved).map
          fun reference => .unresolvedReference reference.name) ∧
      ∃ fromBatch fromClasspath, imported.events.getLast? =
          some (.finished fromBatch fromClasspath imported.diagnostics.length) ∧
        fromBatch = (imported.classes.filter fun published => published.origin == .imported).length ∧
        fromClasspath = (imported.classes.filter ImportedClass.isFromClasspath).length ∧
        fromBatch + fromClasspath = imported.classes.length := by
  intro imported
  have outcome := importClasses_outcome_lastState options classpath batch
  obtain ⟨recorded, logged, misses, entries⟩ := options.lastState_logs classpath batch
  rw [outcome.filter_isMiss entries] at misses
  have answers : imported.events.filter Event.isAnswer = imported.requests.map classpath.answer := by
    rw [importClasses_filter_events options classpath batch fun _ _ _ => rfl, recorded.answers,
      outcome.requests]
  rw [← importClasses_filter_events options classpath batch fun _ _ _ => rfl] at misses
  refine ⟨?_, ?_, ?_, ?_, _, _, importClasses_getLast? options classpath batch, rfl, rfl,
    outcome.length_classes⟩
  · rw [Imported.told, ← answers]
    exact List.filter_congr fun event _ => event.contains_message_eq.1
  · have found := outcome.filter_origin .classpath
    rw [recorded.loaded, ← outcome.requests] at found
    rw [Imported.told, List.filter_congr fun event _ => event.contains_message_eq.2.1,
      Event.filter_of_kind Event.isAnswer_of_isLoaded, answers, Event.filter_isLoaded, ← found,
      List.map_map]
    rfl
  · rw [Imported.told, List.filter_congr fun event _ => event.contains_message_eq.2.2.1,
      Event.filter_of_kind Event.isMiss_of_isStub, misses, JavaType.filter_isStub_flatMap,
      imported.occurrences_eq]
  · rw [Imported.told, List.filter_congr fun event _ => event.contains_message_eq.2.2.2,
      Event.filter_of_kind Event.isMiss_of_isUnresolved, misses,
      JavaType.filter_isUnresolved_flatMap]
    rfl

end JvmGenerics
