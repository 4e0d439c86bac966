import JvmGenerics.Proofs.Import.Forgetting

/-!
# Imports in lockstep

Two imports of the same classes, of which the second one lacks some unusable signatures, go
through the same steps. At every moment they have declared the same classes and asked for
the same names, in the same order.
-/

namespace JvmGenerics

/-- Sources that find the same classes, possibly without some of their signatures. -/
structure ImportSources.Forgets (texts : SignatureTexts) (sources others : ImportSources) :
    Prop where
  classpath : sources.classpath.Forgets texts others.classpath
  fallback : others.fallback = sources.fallback
  limit : others.limit = sources.limit

namespace ImportState

/-- The states of two imports at the same moment. -/
structure Lockstep (texts : SignatureTexts) (first second : ImportState) : Prop where
  classes : List.Forall₂ (DeclaredClass.Forgets texts) first.classes second.classes
  requests : second.requests = first.requests
  diagnostics : second.diagnostics.Sublist first.diagnostics

variable {texts : SignatureTexts} {first second : ImportState}

theorem Lockstep.class? (lockstep : first.Lockstep texts second) (name : String) :
    Option.Rel (DeclaredClass.Forgets texts) (first.class? name) (second.class? name) :=
  rel_find? lockstep.classes fun declared other same => by rw [same.name]

theorem Lockstep.asking (lockstep : first.Lockstep texts second) (name : String)
    (events otherEvents : List Event) :
    (first.asking name events).Lockstep texts (second.asking name otherEvents) :=
  ⟨lockstep.classes, congrArg (· ++ [name]) lockstep.requests, lockstep.diagnostics⟩

theorem Lockstep.reporting (lockstep : first.Lockstep texts second) (diagnostic : Diagnostic) :
    (first.reporting diagnostic).Lockstep texts (second.reporting diagnostic) :=
  ⟨lockstep.classes, lockstep.requests,
    lockstep.diagnostics.append (List.Sublist.refl [diagnostic])⟩

theorem Lockstep.withEvents (lockstep : first.Lockstep texts second)
    (events otherEvents : List Event) :
    (first.withEvents events).Lockstep texts (second.withEvents otherEvents) :=
  ⟨lockstep.classes, lockstep.requests, lockstep.diagnostics⟩

theorem Lockstep.adding (unusable : texts.Unusable) (lockstep : first.Lockstep texts second)
    {info other : ClassInfo} (forgets : info.Forgets texts other) (origin : Origin) :
    (first.adding (info.declaredAt origin first.store.scopes.length)).Lockstep texts
      (second.adding (other.declaredAt origin second.store.scopes.length)) where
  classes := List.rel_append lockstep.classes (.cons (forgets.declaredAt unusable origin _ _) .nil)
  requests := lockstep.requests
  diagnostics :=
    lockstep.diagnostics.append (forgets.declarationDiagnostics_sublist unusable)

end ImportState

namespace Import

open ImportState

variable {texts : SignatureTexts} {sources others : ImportSources}
variable {batch otherBatch : List ClassInfo} {reported otherReported : List Diagnostic}
variable {first second : ImportState}

/-- The question for an origin is a lookup. -/
theorem ask_origin_eq (sources : ImportSources) (chain : ScopeChain) (state : ImportState)
    (name : String) : ∃ events, (surroundings sources chain).ask state (.origin name) =
      ((ensureClass sources name).run state).2.withEvents events := by
  simp only [Surroundings.ask, surroundings, run_bind]
  cases ((ensureClass sources name).run state).1 with
  | some declared => exact ⟨((ensureClass sources name).run state).2.events, rfl⟩
  | none => exact ⟨_, rfl⟩

/-- The question for a scope changes nothing but the events. -/
theorem ask_scope_eq (sources : ImportSources) (chain : ScopeChain) (state : ImportState)
    (name : String) : ∃ events, (surroundings sources chain).ask state (.scope name) =
      state.withEvents events := by
  have first : (get : Import ImportState).run state = (state, state) := rfl
  simp only [Surroundings.ask, surroundings, run_bind, first]
  cases chain.resolve state.store name with
  | some scope => exact ⟨state.events, rfl⟩
  | none => exact ⟨_, rfl⟩

section Steps

variable (unusable : texts.Unusable) (same : sources.Forgets texts others)
include unusable same

/-- A request finds the same class, or none, in both imports. -/
theorem requestClass_lockstep (sound : first.Sound sources batch reported)
    (otherSound : second.Sound others otherBatch otherReported)
    (lockstep : first.Lockstep texts second) {name : String} (absent : first.class? name = none)
    (otherAbsent : second.class? name = none) :
    ((requestClass sources name).run first).2.Lockstep texts
      ((requestClass others name).run second).2 := by
  have effect := requestClass_run sources name first
  have otherEffect := requestClass_run others name second
  have found := rel_filter (same.classpath name) (fun info => info.name == name)
    (fun info => info.name == name) fun info other forgets => by rw [forgets.name]
  cases loaded : (sources.classpath.load name).filter fun info => info.name == name with
  | none =>
    rw [loaded] at effect found
    rw [eq_none_of_rel found] at otherEffect
    obtain ⟨events, effect⟩ := effect
    obtain ⟨otherEvents, otherEffect⟩ := otherEffect
    rw [effect, otherEffect]
    exact lockstep.asking name events otherEvents
  | some info =>
    rw [loaded] at effect found
    obtain ⟨other, otherLoaded, forgets⟩ := exists_of_rel_some found
    rw [otherLoaded] at otherEffect
    obtain ⟨events, effect⟩ := effect
    obtain ⟨otherEvents, otherEffect⟩ := otherEffect
    have named : info.name = name := by simpa using (Option.filter_eq_some_iff.mp loaded).2
    have unowned : ∀ owner ∈ (first.asking name events).owners, owner.className ≠ info.name := by
      rw [named]
      exact sound.toWellFormed.ne_of_class?_eq_none absent
    have otherUnowned : ∀ owner ∈ (second.asking name otherEvents).owners,
        owner.className ≠ other.name := by
      rw [forgets.name, named]
      exact otherSound.toWellFormed.ne_of_class?_eq_none otherAbsent
    rw [effect, otherEffect, declareClass_run .classpath unowned,
      declareClass_run .classpath otherUnowned]
    exact (lockstep.asking name events otherEvents).adding unusable forgets .classpath

theorem ensureClass_lockstep (sound : first.Sound sources batch reported)
    (otherSound : second.Sound others otherBatch otherReported)
    (lockstep : first.Lockstep texts second) (name : String) :
    Option.Rel (DeclaredClass.Forgets texts) ((ensureClass sources name).run first).1
        ((ensureClass others name).run second).1 ∧
      ((ensureClass sources name).run first).2.Lockstep texts
        ((ensureClass others name).run second).2 := by
  have after : ((ensureClass sources name).run first).2.Lockstep texts
      ((ensureClass others name).run second).2 := by
    have found := lockstep.class? name
    cases present : first.class? name with
    | some declared =>
      rw [present] at found
      obtain ⟨other, otherPresent, -⟩ := exists_of_rel_some found
      rw [ensureClass_of_present sources present, ensureClass_of_present others otherPresent]
      exact lockstep
    | none =>
      rw [present] at found
      have otherAbsent := eq_none_of_rel found
      rw [ensureClass_of_absent sources present, ensureClass_of_absent others otherAbsent,
        same.fallback, lockstep.requests]
      split
      · exact requestClass_lockstep unusable same sound otherSound lockstep present otherAbsent
      · exact lockstep
  have ⟨answer, _, _⟩ := ensureClass_spec sound name
  have ⟨otherAnswer, _, _⟩ := ensureClass_spec otherSound name
  rw [answer, otherAnswer]
  exact ⟨after.class? name, after⟩

theorem askEach_lockstep (sound : first.Sound sources batch reported)
    (otherSound : second.Sound others otherBatch otherReported)
    (lockstep : first.Lockstep texts second) (chain otherChain : ScopeChain)
    (questions : List Question) :
    ((surroundings sources chain).askEach first questions).Lockstep texts
      ((surroundings others otherChain).askEach second questions) := by
  induction questions generalizing first second with
  | nil => exact lockstep
  | cons question rest ih =>
    have ⟨next, _⟩ := askEach_spec sound chain [question]
    have ⟨otherNext, _⟩ := askEach_spec otherSound otherChain [question]
    refine ih next otherNext ?_
    cases question with
    | origin name =>
      have ⟨_, after⟩ := ensureClass_lockstep unusable same sound otherSound lockstep name
      obtain ⟨events, effect⟩ := ask_origin_eq sources chain first name
      obtain ⟨otherEvents, otherEffect⟩ := ask_origin_eq others otherChain second name
      rw [effect, otherEffect]
      exact after.withEvents events otherEvents
    | scope name =>
      obtain ⟨events, effect⟩ := ask_scope_eq sources chain first name
      obtain ⟨otherEvents, otherEffect⟩ := ask_scope_eq others otherChain second name
      rw [effect, otherEffect]
      exact lockstep.withEvents events otherEvents

variable {chain otherChain : ScopeChain}

/-- An action that only asks questions, in two places. -/
theorem yields_lockstep {α : Type} {action : Surroundings (StateM ImportState) → Import α}
    {value : Surroundings Id → α} {questions : List Question}
    (sound : first.Sound sources batch reported)
    (otherSound : second.Sound others otherBatch otherReported)
    (lockstep : first.Lockstep texts second)
    (visible : ∀ scope ∈ chain, scope < first.store.scopes.length)
    (otherVisible : ∀ scope ∈ otherChain, scope < second.store.scopes.length)
    (yields : ∀ {place : Surroundings (StateM ImportState)} {answers holds},
      place.AnswersLike answers holds →
        place.Yields holds (action place) (value answers) questions) :
    ((action (surroundings sources chain)).run first).2.Lockstep texts
      ((action (surroundings others otherChain)).run second).2 := by
  have effect := yields (surroundings_answersLike sources batch [] visible) first
    ⟨⟨reported, sound⟩, Grown.refl [] first⟩
  have otherEffect := yields (surroundings_answersLike others otherBatch [] otherVisible) second
    ⟨⟨otherReported, otherSound⟩, Grown.refl [] second⟩
  rw [effect, otherEffect]
  exact askEach_lockstep unusable same sound otherSound lockstep chain otherChain questions

/-- An action that only asks questions, in two places, after the scopes of two elements were
filled in. -/
theorem completeScope_lockstep {α : Type}
    {action : Surroundings (StateM ImportState) → Import α} {value : Surroundings Id → α}
    {questions : List Question}
    (sound : first.Sound sources batch reported)
    (otherSound : second.Sound others otherBatch otherReported)
    (lockstep : first.Lockstep texts second)
    (visible : ∀ scope ∈ chain, scope < first.store.scopes.length)
    (otherVisible : ∀ scope ∈ otherChain, scope < second.store.scopes.length)
    {declared other : DeclaredClass} (member : declared ∈ first.classes)
    (otherMember : other ∈ second.classes) {header otherHeader : ScopeHeader}
    (own : header ∈ declared.headers) (otherOwn : otherHeader ∈ other.headers)
    {parameters : List Signature.TypeParameter}
    (names : header.names = parameters.map Signature.TypeParameter.name)
    (otherNames : otherHeader.names = parameters.map Signature.TypeParameter.name)
    (yields : ∀ {place : Surroundings (StateM ImportState)} {answers holds},
      place.AnswersLike answers holds →
        place.Yields holds (action place) (value answers) questions) :
    ((do
      completeScope (surroundings sources chain) header.scope parameters
      action (surroundings sources chain) : Import α).run first).2.Lockstep texts
    ((do
      completeScope (surroundings others otherChain) otherHeader.scope parameters
      action (surroundings others otherChain) : Import α).run second).2 := by
  have bounds := yields_lockstep unusable same sound otherSound lockstep visible otherVisible
    fun same => Surroundings.typeParameters_yields same parameters
  have completed :
      ((completeScope (surroundings sources chain) header.scope parameters).run first).2.Lockstep
        texts ((completeScope (surroundings others otherChain) otherHeader.scope
          parameters).run second).2 :=
    -- What follows the questions changes nothing but the store.
    ⟨bounds.classes, bounds.requests, bounds.diagnostics⟩
  have ⟨middle, grown, _⟩ := completeScope_spec header parameters sound visible
    (sound.mem_headers member own) (sound.nodup_of_mem_headers member own) names
  have ⟨otherMiddle, otherGrown, _⟩ := completeScope_spec otherHeader parameters otherSound
    otherVisible (otherSound.mem_headers otherMember otherOwn)
    (otherSound.nodup_of_mem_headers otherMember otherOwn) otherNames
  rw [run_bind, run_bind]
  exact yields_lockstep unusable same middle otherMiddle completed
    (fun scope listed => Nat.lt_of_lt_of_le (visible scope listed) grown.scopes_le)
    (fun scope listed => Nat.lt_of_lt_of_le (otherVisible scope listed) otherGrown.scopes_le)
    yields

section Elements

variable (sound : first.Sound sources batch reported)
variable (otherSound : second.Sound others otherBatch otherReported)
variable (lockstep : first.Lockstep texts second)
variable {declared other : DeclaredClass} (member : declared ∈ first.classes)
variable (otherMember : other ∈ second.classes)
include sound otherSound lockstep member otherMember

theorem resolveSupertypes_lockstep (forgets : declared.Forgets texts other)
    (visible : ∀ scope ∈ chain, scope < first.store.scopes.length)
    (otherVisible : ∀ scope ∈ otherChain, scope < second.store.scopes.length) :
    ((resolveSupertypes sources chain declared).run first).2.Lockstep texts
      ((resolveSupertypes others otherChain other).run second).2 := by
  have signature? := forgets.signature?
  unfold resolveSupertypes
  cases generics : declared.generics with
  | erased scope =>
    cases otherGenerics : other.generics with
    | erased otherScope =>
      rw [forgets.info.superclass, forgets.info.interfaces]
      exact yields_lockstep unusable same sound otherSound lockstep visible otherVisible
        fun same => Surroundings.erasedSupertypes_yields same _ _
    | generic otherScope signature =>
      rw [generics, otherGenerics] at signature?
      cases signature?
  | generic scope signature =>
    cases otherGenerics : other.generics with
    | erased otherScope =>
      rw [generics, otherGenerics] at signature?
      cases signature?
    | generic otherScope otherSignature =>
      rw [generics, otherGenerics] at signature?
      obtain rfl : otherSignature = signature := Option.some.inj signature?
      exact completeScope_lockstep unusable same sound otherSound lockstep visible otherVisible
        member otherMember (DeclaredClass.mem_headers_of_generic generics)
        (DeclaredClass.mem_headers_of_generic otherGenerics) rfl rfl
        fun same => Surroundings.supertypes_yields same otherSignature

theorem resolveMethod_lockstep {method otherMethod : DeclaredMethod}
    (own : method ∈ declared.methods) (otherOwn : otherMethod ∈ other.methods)
    (name : other.name = declared.name) (forgets : method.Forgets texts otherMethod)
    (visible : ∀ scope ∈ chain, scope < first.store.scopes.length)
    (otherVisible : ∀ scope ∈ otherChain, scope < second.store.scopes.length) :
    ((resolveMethod sources declared.name chain method).run first).2.Lockstep texts
      ((resolveMethod others other.name otherChain otherMethod).run second).2 := by
  have inside := sound.visible_method member own visible
  have otherInside := otherSound.visible_method otherMember otherOwn otherVisible
  obtain ⟨info, generics⟩ := method
  obtain ⟨otherInfo, otherGenerics⟩ := otherMethod
  obtain ⟨infos, signature?, scope⟩ := forgets
  cases generics with
  | erased =>
    cases otherGenerics with
    | erased =>
      have key : otherInfo.key = info.key := infos.key
      cases parsed : MethodDescriptor.parse info.key.descriptor with
      | ok descriptor =>
        simp only [resolveMethod, key, parsed]
        exact yields_lockstep unusable same sound otherSound lockstep inside otherInside
          fun same => Surroundings.erasedMethodTypes_yields same descriptor
      | error error =>
        simp only [resolveMethod, key, name, parsed]
        exact lockstep.reporting _
    | plain signature => cases signature?
    | generic scope signature => cases signature?
  | plain signature =>
    cases otherGenerics with
    | erased => cases signature?
    | plain otherSignature =>
      obtain rfl : otherSignature = signature := Option.some.inj signature?
      exact yields_lockstep unusable same sound otherSound lockstep inside otherInside
        fun same => Surroundings.methodTypes_yields same otherSignature
    | generic otherScope otherSignature => cases scope
  | generic ownScope signature =>
    cases otherGenerics with
    | erased => cases signature?
    | plain otherSignature => cases scope
    | generic otherScope otherSignature =>
      obtain rfl : otherSignature = signature := Option.some.inj signature?
      exact completeScope_lockstep unusable same sound otherSound lockstep inside otherInside
        member otherMember (DeclaredClass.mem_headers_of_method own rfl)
        (DeclaredClass.mem_headers_of_method otherOwn rfl) rfl rfl
        fun same => Surroundings.methodTypes_yields same otherSignature

theorem resolveMethods_lockstep {methods otherMethods : List DeclaredMethod}
    (name : other.name = declared.name)
    (forgets : List.Forall₂ (DeclaredMethod.Forgets texts) methods otherMethods)
    (own : ∀ method ∈ methods, method ∈ declared.methods)
    (otherOwn : ∀ method ∈ otherMethods, method ∈ other.methods)
    (visible : ∀ scope ∈ chain, scope < first.store.scopes.length)
    (otherVisible : ∀ scope ∈ otherChain, scope < second.store.scopes.length) :
    ((methods.mapM (resolveMethod sources declared.name chain)).run first).2.Lockstep texts
      ((otherMethods.mapM (resolveMethod others other.name otherChain)).run second).2 := by
  induction forgets generalizing first second reported otherReported with
  | nil => exact lockstep
  | @cons method otherMethod _ _ head _ ih =>
    rw [List.forall_mem_cons] at own otherOwn
    have step := resolveMethod_lockstep unusable same sound otherSound lockstep member otherMember
      own.1 otherOwn.1 name head visible otherVisible
    have resolution := resolveMethod_spec sound member own.1 visible
    have otherResolution := resolveMethod_spec otherSound otherMember otherOwn.1 otherVisible
    rw [List.mapM_cons, List.mapM_cons]
    simp only [run_bind, run_pure]
    refine ih resolution.sound otherResolution.sound step
      (resolution.progress.classes.subset member)
      (otherResolution.progress.classes.subset otherMember) own.2 otherOwn.2
      (fun scope listed => ?_) fun scope listed => ?_
    · exact Nat.lt_of_lt_of_le (visible scope listed) resolution.progress.scopes_le
    · exact Nat.lt_of_lt_of_le (otherVisible scope listed) otherResolution.progress.scopes_le

/-- Both walks pass the same classes. -/
theorem chainFrom_lockstep (forgets : declared.Forgets texts other) (rounds : Nat)
    (visited : List String) :
    ((chainFrom sources rounds visited declared).run first).2.Lockstep texts
      ((chainFrom others rounds visited other).run second).2 := by
  induction rounds generalizing first second declared other visited with
  | zero => exact lockstep
  | succ rounds ih =>
    by_cases met : declared.name ∈ visited
    · have otherMet := met
      rw [← forgets.name] at otherMet
      rw [chainFrom_of_passed met, chainFrom_of_passed otherMet]
      exact lockstep.withEvents _ _
    have otherMet := met
    rw [← forgets.name] at otherMet
    have enclosing := forgets.info.enclosing
    cases place : declared.info.enclosing with
    | none =>
      rw [place] at enclosing
      rw [chainFrom_of_alone met place, chainFrom_of_alone otherMet enclosing]
      exact lockstep
    | some around =>
      rw [place] at enclosing
      cases isStatic : around.isStatic with
      | true =>
        rw [chainFrom_of_cut met place isStatic, chainFrom_of_cut otherMet enclosing isStatic]
        exact lockstep
      | false =>
        have ⟨found, after⟩ := ensureClass_lockstep unusable same sound otherSound lockstep
          around.className
        have ⟨answer, middle, _⟩ := ensureClass_spec sound around.className
        have ⟨otherAnswer, otherMiddle, _⟩ := ensureClass_spec otherSound around.className
        cases effect : (ensureClass sources around.className).run first with
        | mk result asked =>
        cases otherEffect : (ensureClass others around.className).run second with
        | mk otherResult otherAsked =>
        rw [effect] at found after answer middle
        rw [otherEffect] at found after otherAnswer otherMiddle
        cases found with
        | none =>
          rw [chainFrom_of_missing met place isStatic effect,
            chainFrom_of_missing otherMet enclosing isStatic otherEffect]
          exact after.withEvents _ _
        | some outer =>
          rw [chainFrom_of_nested met place isStatic effect,
            chainFrom_of_nested otherMet enclosing isStatic otherEffect, forgets.name]
          exact ih middle otherMiddle after (mem_of_class? answer.symm).1
            (mem_of_class? otherAnswer.symm).1 outer _

variable (limited : batch.length + sources.classpath.names.length ≤ sources.limit)
variable (otherLimited : otherBatch.length + others.classpath.names.length ≤ others.limit)
include limited otherLimited

theorem resolveClass_lockstep (forgets : declared.Forgets texts other) :
    ((resolveClass sources declared).run first).2.Lockstep texts
      ((resolveClass others other).run second).2 := by
  have walked := chainFrom_lockstep unusable same sound otherSound lockstep member otherMember
    forgets (sources.limit + 1) []
  obtain ⟨base, grown, lexical⟩ := chainFrom_spec limited (sources.limit + 1) sound member
    List.nodup_nil (List.nil_subset _) (by simp)
  obtain ⟨otherBase, otherGrown, otherLexical⟩ := chainFrom_spec otherLimited (others.limit + 1)
    otherSound otherMember List.nodup_nil (List.nil_subset _) (by simp)
  rw [same.limit] at otherBase otherGrown otherLexical
  rw [resolveClass_run, resolveClass_run, lexicalChain, lexicalChain, same.limit]
  generalize (chainFrom sources (sources.limit + 1) [] declared).run first = walk at *
  generalize (chainFrom others (sources.limit + 1) [] other).run second = otherWalk at *
  have inBase := grown.classes.subset member
  have otherInBase := otherGrown.classes.subset otherMember
  have visible := lexical.visible base inBase
  have otherVisible := otherLexical.visible otherBase otherInBase
  have supertypes := resolveSupertypes_lockstep unusable same base otherBase walked inBase
    otherInBase forgets visible otherVisible
  obtain ⟨_, middle, second, _⟩ := resolveSupertypes_spec base inBase visible
  obtain ⟨_, otherMiddle, otherSecond, _⟩ := resolveSupertypes_spec otherBase otherInBase otherVisible
  exact resolveMethods_lockstep unusable same middle otherMiddle supertypes
    (second.classes.subset inBase) (otherSecond.classes.subset otherInBase) forgets.name
    forgets.methods (fun _ own => own) (fun _ own => own)
    (fun scope listed => Nat.lt_of_lt_of_le (visible scope listed) second.scopes_le)
    fun scope listed => Nat.lt_of_lt_of_le (otherVisible scope listed) otherSecond.scopes_le

omit member otherMember in
theorem resolveFrom_lockstep (rounds next : Nat) :
    ((resolveFrom sources rounds next).run first).2.Lockstep texts
      ((resolveFrom others rounds next).run second).2 := by
  induction rounds generalizing first second reported otherReported next with
  | zero => exact lockstep
  | succ rounds ih =>
    have entries := rel_getElem? lockstep.classes next
    cases listed : first.classes[next]? with
    | none =>
      rw [listed] at entries
      rw [resolveFrom_of_end listed, resolveFrom_of_end (eq_none_of_rel entries)]
      exact lockstep
    | some declared =>
      rw [listed] at entries
      obtain ⟨other, otherListed, forgets⟩ := exists_of_rel_some entries
      have member := List.mem_of_getElem? listed
      have otherMember := List.mem_of_getElem? otherListed
      have step := resolveClass_lockstep unusable same sound otherSound lockstep member otherMember
        limited otherLimited forgets
      have ⟨middle, _, _⟩ := resolveClass_spec limited sound member
      have ⟨otherMiddle, _, _⟩ := resolveClass_spec otherLimited otherSound otherMember
      rw [resolveFrom_of_class listed, resolveFrom_of_class otherListed]
      exact ih middle otherMiddle step (next + 1)

end Elements

end Steps

/-- Both imports declare the same classes of their batches. -/
theorem declareBatch_lockstep (unusable : texts.Unusable) {infos otherInfos : List ClassInfo}
    (forgets : List.Forall₂ (ClassInfo.Forgets texts) infos otherInfos)
    (gathered : first.Gathered sources batch reported)
    (otherGathered : second.Gathered others otherBatch otherReported)
    (lockstep : first.Lockstep texts second) :
    ((infos.forM declareBatchClass).run first).2.Lockstep texts
      ((otherInfos.forM declareBatchClass).run second).2 := by
  induction forgets generalizing first second batch otherBatch reported otherReported with
  | nil => exact lockstep
  | @cons info otherInfo rest otherRest head _ ih =>
    obtain ⟨_, next⟩ := declareBatchClass_gathered gathered info
    obtain ⟨_, otherNext⟩ := declareBatchClass_gathered otherGathered otherInfo
    have step : ((declareBatchClass info).run first).2.Lockstep texts
        ((declareBatchClass otherInfo).run second).2 := by
      have found := lockstep.class? info.name
      cases present : first.class? info.name with
      | some declared =>
        rw [present] at found
        obtain ⟨other, otherPresent, -⟩ := exists_of_rel_some found
        rw [← head.name] at otherPresent
        rw [declareBatchClass_of_present present, declareBatchClass_of_present otherPresent,
          head.name]
        exact (lockstep.withEvents _ _).reporting _
      | none =>
        rw [present] at found
        have otherAbsent := eq_none_of_rel found
        rw [← head.name] at otherAbsent
        rw [declareBatchClass_of_absent present (gathered.toWellFormed.ne_of_class?_eq_none present),
          declareBatchClass_of_absent otherAbsent
            (otherGathered.toWellFormed.ne_of_class?_eq_none otherAbsent)]
        exact lockstep.adding unusable head .imported
    exact ih next otherNext step

end Import

/-- Imports of the same classes end in lockstep. -/
theorem ImportOptions.lastState_lockstep {texts : SignatureTexts} (unusable : texts.Unusable)
    (options : ImportOptions) {classpath other : Classpath} {batch others : List ClassInfo}
    (names : other.names.length = classpath.names.length) (found : classpath.Forgets texts other)
    (infos : List.Forall₂ (ClassInfo.Forgets texts) batch others) :
    (options.lastState classpath batch).Lockstep texts (options.lastState other others) := by
  have ⟨gathered, _⟩ := ImportState.ofBatch_spec (options.sources classpath batch) batch
  have ⟨otherGathered, _⟩ := ImportState.ofBatch_spec (options.sources other others) others
  have limit : (options.sources other others).limit = (options.sources classpath batch).limit := by
    rw [ImportOptions.sources, ImportOptions.sources, names, infos.length_eq]
  have same : (options.sources classpath batch).Forgets texts (options.sources other others) :=
    ⟨found, rfl, limit⟩
  have start : ImportState.start.Lockstep texts ImportState.start :=
    ⟨.nil, rfl, List.Sublist.refl []⟩
  have declared := Import.declareBatch_lockstep unusable infos
    (ImportState.gathered_start (options.sources classpath batch))
    (ImportState.gathered_start (options.sources other others)) start
  rw [lastState, lastState, limit]
  exact Import.resolveFrom_lockstep unusable same gathered.toSound otherGathered.toSound declared
    (Nat.le_refl _) (Nat.le_refl _) _ 0

end JvmGenerics
