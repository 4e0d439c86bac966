import JvmGenerics.Proofs.Import.MissingScopes
import JvmGenerics.Proofs.Import.Sources

/-!
# Dropped signatures

A signature that is dropped costs its own element its generics, and nothing else: an import
goes on as if the element never had one. So two imports that differ in such signatures only
yield the same classes and ask for the same names. They even yield the same store if the
signatures are malformed. If type parameters are refused, the class lacks its scope, and
the scopes after it have other numbers.
-/

namespace JvmGenerics

/-- The diagnostics of the signatures that a result has and another one lacks. -/
def Imported.forgotten (first second : Imported) : List Diagnostic :=
  ((first.classes.map ImportedClass.info).zip (second.classes.map ImportedClass.info)).flatMap
    fun pair => pair.1.forgotten pair.2

/-- What an import reports without some signatures: it asks for the same names in the same
order, and all that it lacks are the diagnostics of these signatures. -/
structure Imported.ReportsWithout (codes : List String) (first second : Imported) : Prop where
  requests : second.requests = first.requests
  defects : second.defects = first.defects
  diagnostics : second.diagnostics.Sublist first.diagnostics
  missing : first.diagnostics.Perm (second.diagnostics ++ first.forgotten second)
  codes : ∀ diagnostic ∈ first.forgotten second, diagnostic.code ∈ codes

/-- The same method, apart from its data, which may lack the signature. -/
structure ImportedMethod.SameWithout (texts : SignatureTexts) (method other : ImportedMethod) :
    Prop where
  info : method.info.Forgets texts other.info
  scope : other.scope = method.scope
  types : other.types = method.types

/-- The same class, apart from its data, which may lack some signatures. -/
structure ImportedClass.SameWithout (texts : SignatureTexts) (published other : ImportedClass) :
    Prop where
  info : published.info.Forgets texts other.info
  origin : other.origin = published.origin
  scope : other.scope = published.scope
  supertypes : other.supertypes = published.supertypes
  methods : List.Forall₂ (ImportedMethod.SameWithout texts) published.methods other.methods

/-- The same result, apart from the data of the classes and from the diagnostics of the
signatures that these lack. -/
structure Imported.SameWithout (texts : SignatureTexts) (codes : List String)
    (first second : Imported) : Prop extends first.ReportsWithout codes second where
  classes : List.Forall₂ (ImportedClass.SameWithout texts) first.classes second.classes
  store : second.store = first.store

namespace Imported

/-- The same class in two results that number the scopes in different ways. A class that
lacks its signature in the second one may have an empty scope there and none in the
first. -/
structure SparedClass (texts : SignatureTexts) (first second : Imported)
    (published other : ImportedClass) : Prop where
  info : published.info.Forgets texts other.info
  origin : other.origin = published.origin
  scope : ClassScope first.store second.store published.info other.info published.scope
    other.scope
  alike : first.AlikeClass (fun _ => Eq) (fun _ => first.SameScope second) second published other
  methods : List.Forall₂ (fun method otherMethod => method.info.Forgets texts otherMethod.info ∧
    first.SameScope second method.scope otherMethod.scope) published.methods other.methods

/-- The same scope in two results that number the scopes in different ways. -/
structure AlikeScope (first second : Imported) (scope other : Scope) : Prop where
  owner : other.owner = scope.owner
  parameters : List.Forall₂ (TypeParameter.Alike (fun _ => Eq) fun _ => first.SameScope second)
    scope.parameters other.parameters

/-- The same scopes in two results, apart from empty scopes of classes that have none in the
first result. -/
inductive SparedScopes (first second : Imported) : List Scope → List Scope → Prop
  | nil : SparedScopes first second [] []
  | alike {scope other : Scope} {scopes others : List Scope} :
      first.AlikeScope second scope other → SparedScopes first second scopes others →
        SparedScopes first second (scope :: scopes) (other :: others)
  | missing {published : ImportedClass} {scopes others : List Scope} :
      published ∈ first.classes → published.scope = none →
        SparedScopes first second scopes others →
          SparedScopes first second scopes (⟨.ofClass published.name, []⟩ :: others)

/-- The same result, apart from the data of the classes, from the diagnostics of the
signatures that these lack, and from the numbers of the scopes. -/
structure AlikeWithout (texts : SignatureTexts) (codes : List String) (first second : Imported) :
    Prop extends first.ReportsWithout codes second where
  classes : List.Forall₂ (first.SparedClass texts second) first.classes second.classes
  scopes : first.SparedScopes second first.store.scopes second.store.scopes

end Imported

theorem ClassInfo.repeatDiagnostics_congr {infos others : List ClassInfo}
    (names : List.Forall₂ (fun info other => other.name = info.name) infos others)
    (seen : List String) : repeatDiagnostics seen others = repeatDiagnostics seen infos := by
  induction names generalizing seen with
  | nil => rfl
  | cons head _ ih => rw [repeatDiagnostics, repeatDiagnostics, head, ih, ih]

namespace Imported.Outcome

section Pair

variable {texts : SignatureTexts} {sources others : ImportSources}
variable {batch otherBatch : List ClassInfo} {first second : Imported}
variable {state later : ImportState}
variable (outcome : first.Outcome sources batch state)
variable (otherOutcome : second.Outcome others otherBatch later)
include outcome otherOutcome

/-- The methods of a class are the same in two results, apart from their signatures. -/
theorem methods_forget {published other : ImportedClass} (member : published ∈ first.classes)
    (otherMember : other ∈ second.classes) (info : published.info.Forgets texts other.info) :
    List.Forall₂ (fun method otherMethod : ImportedMethod =>
      method.info.Forgets texts otherMethod.info) published.methods other.methods := by
  have methods := info.methods
  rw [← outcome.methods_eq member, ← otherOutcome.methods_eq otherMember] at methods
  exact forall₂_map_iff.mp methods

variable (lockstep : state.Lockstep texts later)
include lockstep

theorem infos_forget : List.Forall₂ (ClassInfo.Forgets texts)
    (first.classes.map ImportedClass.info) (second.classes.map ImportedClass.info) := by
  rw [outcome.infos_eq, otherOutcome.infos_eq, forall₂_map_iff]
  exact lockstep.classes.imp fun _ _ same => same.info

variable (unusable : texts.Unusable)
include unusable

theorem diagnostics_perm_forgotten
    (batches : List.Forall₂ (ClassInfo.Forgets texts) batch otherBatch) :
    first.diagnostics.Perm (second.diagnostics ++ first.forgotten second) := by
  have infos := outcome.infos_forget otherOutcome lockstep
  have declared := flatMap_perm_of_forall₂ infos
    fun info other forgets => forgets.declarationDiagnostics_perm unusable
  have resolved := flatMap_eq_of_forall₂ infos
    fun info other forgets => (forgets.resolutionDiagnostics_eq unusable).symm
  have repeated :=
    ClassInfo.repeatDiagnostics_congr (batches.imp fun _ _ forgets => forgets.name) []
  have own := outcome.sound.diagnostics
  have others := otherOutcome.sound.diagnostics
  simp only [← List.flatMap_map DeclaredClass.info, ← outcome.infos_eq, ← otherOutcome.infos_eq]
    at own others
  rw [repeated, ← resolved] at others
  rw [← outcome.diagnostics] at own
  rw [← otherOutcome.diagnostics] at others
  -- Both imports report the same apart from the declarations.
  let reported := ClassInfo.repeatDiagnostics [] batch ++
    (first.classes.map ImportedClass.info).flatMap ClassInfo.resolutionDiagnostics
  let kept := (second.classes.map ImportedClass.info).flatMap ClassInfo.declarationDiagnostics
  calc first.diagnostics
    List.Perm _ (kept ++ first.forgotten second ++ reported) :=
      own.trans (declared.append_right reported)
    List.Perm _ (kept ++ reported ++ first.forgotten second) := by
      rw [List.append_assoc, List.append_assoc]
      exact List.perm_append_comm.append_left kept
    List.Perm _ (second.diagnostics ++ first.forgotten second) := others.symm.append_right _

theorem reportsWithout {codes : List String} (reportedAs : texts.ReportedAs codes)
    (batches : List.Forall₂ (ClassInfo.Forgets texts) batch otherBatch) :
    first.ReportsWithout codes second where
  requests := by rw [outcome.requests, otherOutcome.requests, lockstep.requests]
  defects := by
    rw [outcome.defects, otherOutcome.defects, outcome.sound.defects, otherOutcome.sound.defects]
  diagnostics := by
    rw [outcome.diagnostics, otherOutcome.diagnostics]
    exact lockstep.diagnostics
  missing := outcome.diagnostics_perm_forgotten otherOutcome lockstep unusable batches
  codes diagnostic missing := by
    obtain ⟨⟨info, other⟩, listed, missing⟩ := List.mem_flatMap.mp missing
    have forgets := List.forall₂_zip (outcome.infos_forget otherOutcome lockstep) listed
    exact forgets.code_of_forgotten unusable reportedAs diagnostic missing

end Pair

section Malformed

variable {sources others : ImportSources} {batch otherBatch : List ClassInfo}
variable {first second : Imported} {state later : ImportState}
variable (outcome : first.Outcome sources batch state)
variable (otherOutcome : second.Outcome others otherBatch later)
variable (lockstep : state.Lockstep .malformed later)
include outcome otherOutcome lockstep

/-- Without malformed signatures, the classes are declared under the same numbers. -/
theorem copies_of_lockstep :
    List.Forall₂ (DeclaredClass.Copies id) state.classes later.classes := by
  rw [outcome.sound.classes_eq, otherOutcome.sound.classes_eq]
  refine ClassInfo.declareEach_copies (forall₂_map_iff.mpr ?_) 0
  refine lockstep.classes.imp fun declared other same next => ?_
  rw [same.origin]
  exact same.info.copies declared.origin next

theorem classes_sameWithout :
    List.Forall₂ (ImportedClass.SameWithout .malformed) first.classes second.classes := by
  have copied := outcome.copiedClasses otherOutcome
    (outcome.copies_of_lockstep otherOutcome lockstep) rfl rfl
  have infos := outcome.infos_forget otherOutcome lockstep
  rw [forall₂_map_iff] at infos
  have both := List.Forall₂.mp (fun _ _ info copied => And.intro info copied) infos copied
  refine forall₂_of_forall_mem both (fun published member => member)
    (fun other member => member) fun published other member otherMember same => ?_
  obtain ⟨info, copied⟩ := same
  refine ⟨info, copied.origin, copied.scope,
    copied.supertypes.trans (Supertypes.mapOrigins_id _), ?_⟩
  refine List.Forall₂.mp (fun method otherMethod info copied => ?_)
    (outcome.methods_forget otherOutcome member otherMember info) copied.methods
  exact ⟨info, copied.scope, copied.types.trans (MethodTypes.mapOrigins_id _)⟩

theorem store_eq_of_lockstep : second.store = first.store := by
  have copies := outcome.copies_of_lockstep otherOutcome lockstep
  rw [outcome.store_eq_of_copies otherOutcome copies rfl rfl, TypeStore.mapOrigins_id]

end Malformed

section Unusable

variable {texts : SignatureTexts} {sources others : ImportSources}
variable {batch otherBatch : List ClassInfo} {first second : Imported}
variable {state later : ImportState}
variable (outcome : first.Outcome sources batch state)
variable (otherOutcome : second.Outcome others otherBatch later)
include outcome otherOutcome

theorem spared (unusable : texts.Unusable) {declared other : DeclaredClass}
    (member : declared ∈ state.classes) (otherMember : other ∈ later.classes)
    (forgets : declared.Forgets texts other) :
    declared.Spared first.store second.store other := by
  rw [outcome.store, otherOutcome.store]
  exact forgets.spared unusable outcome.sound.toWellFormed otherOutcome.sound.toWellFormed member
    otherMember

variable (lockstep : state.Lockstep texts later)
include lockstep

theorem originOf_eq_of_lockstep (name : String) : first.originOf name = second.originOf name :=
  outcome.originOf_through otherOutcome Eq (lockstep.class? name) rfl
    fun _ _ same => same.origin.symm

variable (unusable : texts.Unusable)
include unusable

theorem rel_outline? (name : String) :
    Option.Rel (Outline.Alike (first.store.ResolvesLike second.store)) (state.outline? name)
      (later.outline? name) := by
  have same := lockstep.class? name
  rw [ImportState.outline?, ImportState.outline?]
  cases present : state.class? name with
  | none =>
    rw [present] at same
    rw [eq_none_of_rel same]
    exact .none
  | some declared =>
    rw [present] at same
    obtain ⟨other, otherPresent, forgets⟩ := exists_of_rel_some same
    rw [otherPresent]
    have spared := outcome.spared otherOutcome unusable (ImportState.mem_of_class? present).1
      (ImportState.mem_of_class? otherPresent).1 forgets
    exact .some (spared.outline forgets)

section Classes

variable {declared other : DeclaredClass} {published otherPublished : ImportedClass}
variable {chain otherChain : ScopeChain}
variable (member : declared ∈ state.classes) (otherMember : other ∈ later.classes)
variable (forgets : declared.Forgets texts other)
variable (resolved : state.Resolved sources batch chain declared published)
variable (otherResolved : later.Resolved others otherBatch otherChain other otherPublished)
include member otherMember forgets resolved otherResolved

/-- In the chains of a class, every name means the same in both results. -/
theorem chains_resolveLike : first.store.ResolvesLike second.store chain otherChain := by
  have spared := outcome.spared otherOutcome unusable member otherMember forgets
  exact LexicalChain.alike TypeStore.resolvesLike_nil (fun inside outside => inside.append outside)
    (outcome.rel_outline? otherOutcome lockstep unusable) (outcome.lexical resolved)
    (otherOutcome.lexical otherResolved) (spared.outline forgets)

theorem sparedClass : first.SparedClass texts second published otherPublished := by
  have spared := outcome.spared otherOutcome unusable member otherMember forgets
  have chains := outcome.chains_resolveLike otherOutcome lockstep unusable member otherMember
    forgets resolved otherResolved
  have origins := outcome.originOf_eq_of_lockstep otherOutcome lockstep
  have pair : ClassPair (fun _ => Eq) (fun _ => first.SameScope second) first second chain
      otherChain declared other := by
    refine ⟨forgets.info.superclass, forgets.info.interfaces, forgets.signature?,
      ⟨origins, chains⟩, ?_⟩
    refine List.Forall₂.mp (fun method otherMethod forgets spared => ?_) forgets.methods
      spared.methods
    exact ⟨forgets.info.key, forgets.signature?, origins,
      (TypeStore.resolvesLike_of_rel spared.2).append chains⟩
  have alike := outcome.alikeClass (fun _ => rfl) otherOutcome member otherMember resolved
    otherResolved pair
  have methods := List.Forall₂.mp (fun _ _ forgets spared => And.intro forgets.info spared.2)
    forgets.methods spared.methods
  rw [resolved.value, otherResolved.value] at alike ⊢
  exact ⟨forgets.info, forgets.origin, spared.scope, alike,
    forall₂_map_iff.mpr methods⟩

end Classes

theorem classes_spared : List.Forall₂ (first.SparedClass texts second) first.classes
    second.classes :=
  outcome.forall₂_classes otherOutcome lockstep.classes fun member otherMember forgets resolved
    otherResolved => outcome.sparedClass otherOutcome lockstep unusable member otherMember
      forgets resolved otherResolved

end Unusable

end Imported.Outcome

namespace Imported

variable {texts : SignatureTexts} {first second : Imported}

theorem SparedScopes.append {inner otherInner outer otherOuter : List Scope}
    (inside : first.SparedScopes second inner otherInner)
    (outside : first.SparedScopes second outer otherOuter) :
    first.SparedScopes second (inner ++ outer) (otherInner ++ otherOuter) := by
  induction inside with
  | nil => exact outside
  | alike same _ ih => exact .alike same ih
  | missing member none _ ih => exact .missing member none ih

theorem sparedScopes_flatMap {α β : Type} {related : α → β → Prop} {firsts : List α}
    {seconds : List β} (same : List.Forall₂ related firsts seconds) {scopes : α → List Scope}
    {others : β → List Scope}
    (spared : ∀ entry other, related entry other →
      first.SparedScopes second (scopes entry) (others other)) :
    first.SparedScopes second (firsts.flatMap scopes) (seconds.flatMap others) := by
  induction same with
  | nil => exact .nil
  | cons head _ ih =>
    rw [List.flatMap_cons, List.flatMap_cons]
    exact (spared _ _ head).append ih

theorem sparedScopes_scopeOf {scope other : Option ScopeId} (owner : Owner)
    (same : first.SameScope second scope other)
    (parameters : List.Forall₂ (TypeParameter.Alike (fun _ => Eq) fun _ => first.SameScope second)
      (first.parameters scope) (second.parameters other)) :
    first.SparedScopes second (first.scopeOf owner scope) (second.scopeOf owner other) := by
  cases same with
  | none => exact .nil
  | some _ => exact .alike ⟨rfl, parameters⟩ .nil

theorem SparedClass.scopes {published other : ImportedClass} (member : published ∈ first.classes)
    (spared : first.SparedClass texts second published other) :
    first.SparedScopes second (published.scopes first) (other.scopes second) := by
  have name : other.name = published.name := spared.info.name
  rw [ImportedClass.scopes_eq, ImportedClass.scopes_eq, name]
  refine SparedScopes.append ?_ ?_
  · rcases spared.scope with same | ⟨-, none, empty, otherScope, found⟩
    · exact sparedScopes_scopeOf _ same spared.alike.parameters
    · have parameters : second.store.parameters empty = [] := by
        rw [TypeStore.parameters, found]
        rfl
      rw [none, otherScope, scopeOf, scopeOf, Option.map_some, parameters]
      exact .missing member none .nil
  · have methods := List.Forall₂.mp (fun _ _ same alike => And.intro same alike) spared.methods
      spared.alike.methods
    refine sparedScopes_flatMap methods fun method otherMethod same => ?_
    rw [same.1.1.key]
    exact sparedScopes_scopeOf _ same.1.2 same.2.parameters

end Imported

theorem Imported.Outcome.scopes_spared {texts : SignatureTexts} {sources others : ImportSources}
    {batch otherBatch : List ClassInfo} {first second : Imported} {state later : ImportState}
    (outcome : first.Outcome sources batch state)
    (otherOutcome : second.Outcome others otherBatch later)
    (classes : List.Forall₂ (first.SparedClass texts second) first.classes second.classes) :
    first.SparedScopes second first.store.scopes second.store.scopes := by
  have listed := (List.forall₂_and_left _ _).mpr ⟨fun _ member => member, classes⟩
  rw [outcome.scopes_eq, otherOutcome.scopes_eq]
  exact Imported.sparedScopes_flatMap listed fun _ _ same => same.2.scopes same.1

/-- A classpath that finds no other classes finds none under other names. -/
theorem Classpath.Forgets.mem_names {texts : SignatureTexts} {classpath other : Classpath}
    (found : classpath.Forgets texts other) {name : String} {info : ClassInfo}
    (answer : other.read name = .ok (some info)) : name ∈ classpath.names := by
  have same := found name
  have loaded : other.load name = some info := by rw [load, answer]
  rw [loaded] at same
  cases first : classpath.read name with
  | error error =>
    rw [load, first] at same
    cases same
  | ok result =>
    cases result with
    | none =>
      rw [load, first] at same
      cases same
    | some info => exact classpath.mem_names first

/-- Two imports, of which the second one lacks some unusable signatures, end in lockstep. -/
theorem ImportOptions.exists_lockstep {texts : SignatureTexts} (unusable : texts.Unusable)
    (options : ImportOptions) {classpath other : Classpath} {batch others : List ClassInfo}
    (found : classpath.Forgets texts other)
    (batches : List.Forall₂ (ClassInfo.Forgets texts) batch others) :
    ∃ sources otherSources state later,
      (importClasses options classpath batch).Outcome sources batch state ∧
        (importClasses options other others).Outcome otherSources others later ∧
          state.Lockstep texts later := by
  -- The names that bound the rounds of the second import play no part in its result.
  let bounded : Classpath := ⟨other.read, classpath.names, found.mem_names⟩
  have read : options.resolveMissingFromClasspath = true → other.read = bounded.read :=
    fun _ => rfl
  rw [importClasses_congr options read others]
  exact ⟨_, _, _, _, importClasses_outcome_lastState options classpath batch,
    importClasses_outcome_lastState options bounded others,
    options.lastState_lockstep unusable rfl found batches⟩

theorem importClasses_alikeWithout {texts : SignatureTexts} {codes : List String}
    (unusable : texts.Unusable) (reportedAs : texts.ReportedAs codes) (options : ImportOptions)
    {classpath other : Classpath} {batch others : List ClassInfo}
    (found : classpath.Forgets texts other)
    (batches : List.Forall₂ (ClassInfo.Forgets texts) batch others) :
    (importClasses options classpath batch).AlikeWithout texts codes
      (importClasses options other others) := by
  obtain ⟨_, _, state, later, outcome, otherOutcome, lockstep⟩ :=
    options.exists_lockstep unusable found batches
  have classes := outcome.classes_spared otherOutcome lockstep unusable
  exact ⟨outcome.reportsWithout otherOutcome lockstep unusable reportedAs batches, classes,
    outcome.scopes_spared otherOutcome classes⟩

/-- A signature that is dropped costs nothing but its own element. If classes of the batch
or of the classpath come without some of their malformed signatures, an import yields the
same classes from the same places with the same types, the same store and the same requests;
all that is missing are the diagnostics of these signatures. The same is true of signatures
with two type parameters of one name, up to the numbers of the scopes: a class that is
imported with such a signature has no scope, and without it an empty one. -/
theorem importClasses_forgets (options : ImportOptions) {classpath other : Classpath}
    {batch others : List ClassInfo} :
    let first := importClasses options classpath batch
    let second := importClasses options other others
    (classpath.Forgets .malformed other →
      List.Forall₂ (ClassInfo.Forgets .malformed) batch others →
        first.SameWithout .malformed ["malformed-signature"] second) ∧
      (classpath.Forgets .repeating other →
        List.Forall₂ (ClassInfo.Forgets .repeating) batch others →
          first.AlikeWithout .repeating ["invalid-type-parameters"] second) ∧
      (classpath.Forgets .unusable other →
        List.Forall₂ (ClassInfo.Forgets .unusable) batch others →
          first.AlikeWithout .unusable ["malformed-signature", "invalid-type-parameters"]
            second) := by
  refine ⟨fun found batches => ?_, fun found batches => ?_, fun found batches => ?_⟩
  · have unusable := SignatureTexts.unusable_malformed
    obtain ⟨_, _, state, later, outcome, otherOutcome, lockstep⟩ :=
      options.exists_lockstep unusable found batches
    exact ⟨outcome.reportsWithout otherOutcome lockstep unusable
        SignatureTexts.reportedAs_malformed batches,
      outcome.classes_sameWithout otherOutcome lockstep,
      outcome.store_eq_of_lockstep otherOutcome lockstep⟩
  · exact importClasses_alikeWithout SignatureTexts.unusable_repeating
      SignatureTexts.reportedAs_repeating options found batches
  · exact importClasses_alikeWithout SignatureTexts.unusable_unusable
      (SignatureTexts.reportedAs_all _) options found batches

set_option maxRecDepth 20000 in
/-- `Box` and `Base` with unusable type parameters are imported like `Box` and `Base` without
signatures. If the type parameters of `Box` are refused, it has no scope, and those of its
method and of `Base` have other numbers. -/
theorem importClasses_forgets_box :
    let box (signature : Option String) : ClassInfo := { ClassInfo.box with signature := signature }
    let base (signature : Option String) : ClassInfo :=
      { ClassInfo.base with signature := signature }
    let imported (own other : Option String) :=
      importClasses .standard (.ofClasses [base other]) [box own]
    let plain := imported none none
    let malformed := imported (some "<T:") (some "<S:")
    let repeating := imported (some "<T:LBase;T:LBase;>LBase;") none
    let unusable := imported (some "<T:LBase;T:LBase;>LBase;") (some "<S:")
    malformed.SameWithout .malformed ["malformed-signature"] plain ∧
      repeating.AlikeWithout .repeating ["invalid-type-parameters"] plain ∧
      unusable.AlikeWithout .unusable ["malformed-signature", "invalid-type-parameters"] plain ∧
      plain.diagnostics = [] ∧
      unusable.diagnostics.map Diagnostic.code =
        ["invalid-type-parameters", "malformed-signature"] ∧
      plain.classes.map ImportedClass.scope = [some 0, some 2] ∧
      malformed.classes.map ImportedClass.scope = [some 0, some 2] ∧
      repeating.classes.map ImportedClass.scope = [none, some 1] := by
  intro box base imported plain malformed repeating unusable
  have boxMalformed : SignatureTexts.malformed.ofClass "<T:" := by decide +kernel
  have baseMalformed : SignatureTexts.malformed.ofClass "<S:" := by decide +kernel
  have boxRepeating : SignatureTexts.repeating.ofClass "<T:LBase;T:LBase;>LBase;" := by
    decide +kernel
  have boxUnusable := SignatureTexts.unusable_repeating.ofClass _ boxRepeating
  have baseUnusable := SignatureTexts.unusable_malformed.ofClass _ baseMalformed
  refine ⟨?_, ?_, ?_, by decide +kernel, by decide +kernel, by decide +kernel,
    by decide +kernel, by decide +kernel⟩
  · exact (importClasses_forgets .standard).1
      (Classpath.forgets_ofClasses (.cons (ClassInfo.forgets_own rfl baseMalformed) .nil))
      (.cons (ClassInfo.forgets_own rfl boxMalformed) .nil)
  · exact (importClasses_forgets .standard).2.1
      (Classpath.forgets_ofClasses (.cons (ClassInfo.Forgets.refl _ _) .nil))
      (.cons (ClassInfo.forgets_own rfl boxRepeating) .nil)
  · exact (importClasses_forgets .standard).2.2
      (Classpath.forgets_ofClasses (.cons (ClassInfo.forgets_own rfl baseUnusable) .nil))
      (.cons (ClassInfo.forgets_own rfl boxUnusable) .nil)

end JvmGenerics
