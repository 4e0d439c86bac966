import JvmGenerics.Proofs.Import.ClassTable

/-!
# The diagnostics of an import

Which diagnostics an import reports can be told from the classes alone: one for each class of
the batch that repeats a name, and for each published class those of its own signature and of
its methods, whether it was in the batch or was loaded. Where no diagnostic concerns a
signature, the class or the method is published from it.
-/

namespace JvmGenerics

/-- The classes of a batch whose names come earlier in it. -/
def ClassInfo.repeatsOf (batch : List ClassInfo) : List ClassInfo :=
  ((withEarlier batch).filter fun entry => entry.2.name ∈ entry.1.map ClassInfo.name).map Prod.snd

theorem ClassInfo.repeatDiagnostics_eq_filter (seen : List String) (batch : List ClassInfo) :
    repeatDiagnostics seen batch = (((withEarlier batch).filter fun entry =>
      decide (entry.2.name ∈ seen ++ entry.1.map ClassInfo.name)).map Prod.snd).map
        fun info => .duplicateClass info.name := by
  induction batch generalizing seen with
  | nil => rfl
  | cons info rest ih =>
    have later := filter_withEarlier_cons id seen info rest
    simp only [id_eq] at later
    rw [repeatDiagnostics, withEarlier_cons]
    by_cases member : info.name ∈ seen
    · rw [if_pos member] at later
      rw [if_pos member, ih, List.filter_cons_of_pos (by simpa using member), List.map_cons,
        later, List.map_cons]
    · rw [if_neg member] at later
      rw [if_neg member, ih, List.filter_cons_of_neg (by simpa using member), later]

theorem ClassInfo.repeatDiagnostics_eq (batch : List ClassInfo) :
    repeatDiagnostics [] batch =
      (repeatsOf batch).map fun info => .duplicateClass info.name :=
  repeatDiagnostics_eq_filter [] batch

/-- The fault of type parameters of which one repeats the name of an earlier one. -/
def Owner.repeatFault? (owner : Owner) (names : List String) : Option Diagnostic :=
  (firstRepeat [] names).map fun name => .invalidTypeParameters (.duplicateParameter owner name)

theorem Owner.repeatFault?_eq_none_iff (owner : Owner) (names : List String) :
    owner.repeatFault? names = none ↔ names.Nodup := by
  rw [repeatFault?, Option.map_eq_none_iff, firstRepeat_nil_eq_none_iff]

/-- The fault of the signature of a class. -/
def ClassInfo.signatureFault? (info : ClassInfo) : Option Diagnostic :=
  match info.signature.map Signature.parseClass with
  | none => none
  | some (.error error) => some (.malformedSignature (.ofClass info.name) error)
  | some (.ok signature) => (Owner.ofClass info.name).repeatFault? signature.parameterNames

/-- The signature of a class, if it was read and has no fault. -/
def ClassInfo.usableSignature? (info : ClassInfo) : Option Signature.ClassSignature :=
  match info.signatureFault? with
  | some _ => none
  | none => info.signature.bind fun text => (Signature.parseClass text).toOption

namespace MethodInfo

/-- Whether a method has a signature with type parameters, and no two of the same name. -/
def declaresParameters (info : MethodInfo) : Bool :=
  match info.signature.map Signature.parseMethod with
  | some (.ok signature) =>
    !signature.typeParameters.isEmpty && decide signature.parameterNames.Nodup
  | _ => false

/-- The keys of the methods that declare type parameters. -/
def declaredKeys (infos : List MethodInfo) : List MethodKey :=
  (infos.filter declaresParameters).map key

/-- The fault of the signature of a method, where the methods in `earlier` come before. -/
def signatureFault? (className : String) (earlier : List MethodInfo) (info : MethodInfo) :
    Option Diagnostic :=
  let owner := Owner.ofMethod className info.key
  match info.signature.map Signature.parseMethod with
  | none => none
  | some (.error error) => some (.malformedSignature owner error)
  | some (.ok signature) =>
    if signature.typeParameters.isEmpty then none
    else if info.key ∈ declaredKeys earlier then
      some (.invalidTypeParameters (.alreadyDeclared owner))
    else owner.repeatFault? signature.parameterNames

/-- The signature of a method, if it was read and has no fault. -/
def usableSignature? (className : String) (earlier : List MethodInfo) (info : MethodInfo) :
    Option Signature.MethodSignature :=
  match info.signatureFault? className earlier with
  | some _ => none
  | none => info.signature.bind fun text => (Signature.parseMethod text).toOption

/-- The fault of the descriptor of a method, which is read if no usable signature remains. -/
def descriptorFault? (className : String) (earlier : List MethodInfo) (info : MethodInfo) :
    Option Diagnostic :=
  match info.usableSignature? className earlier, MethodDescriptor.parse info.key.descriptor with
  | none, .error error => some (.malformedDescriptor (.ofMethod className info.key) error)
  | _, _ => none

/-- The faults of a method. -/
def faults (className : String) (earlier : List MethodInfo) (info : MethodInfo) :
    List Diagnostic :=
  (info.signatureFault? className earlier).toList ++
    (info.descriptorFault? className earlier).toList

end MethodInfo

/-- The faults of a class and of its methods. -/
def ClassInfo.faults (info : ClassInfo) : List Diagnostic :=
  info.signatureFault?.toList ++
    (withEarlier info.methods).flatMap fun entry => entry.2.faults info.name entry.1

theorem Owner.diagnostics_verdict {α : Type} (owner : Owner) (names : List String)
    (signature : α) :
    (owner.verdict names signature).diagnostics owner = (owner.repeatFault? names).toList := by
  unfold Owner.verdict repeatFault?
  cases firstRepeat [] names <;> rfl

theorem Owner.kept?_verdict {α : Type} (owner : Owner) (names : List String) (signature : α) :
    (owner.verdict names signature).kept? =
      match owner.repeatFault? names with
      | some _ => none
      | none => some signature := by
  unfold Owner.verdict repeatFault?
  cases firstRepeat [] names <;> rfl

theorem Owner.isGeneric_verdict (owner : Owner) (names : List String)
    (signature : Signature.MethodSignature) :
    (owner.verdict names signature).isGeneric =
      (!signature.typeParameters.isEmpty && decide names.Nodup) := by
  rw [Bool.eq_iff_iff, Bool.and_eq_true, decide_eq_true_eq, ← firstRepeat_nil_eq_none_iff]
  unfold Owner.verdict
  cases firstRepeat [] names <;> simp [Verdict.isGeneric]

/-- What a class keeps and what is reported, by its fault. -/
theorem ClassInfo.verdict_spec (info : ClassInfo) :
    info.verdict.diagnostics (.ofClass info.name) = info.signatureFault?.toList ∧
      info.verdict.kept? = info.usableSignature? := by
  unfold ClassInfo.verdict usableSignature? signatureFault?
  cases info.signature with
  | none => exact ⟨rfl, rfl⟩
  | some text =>
    rw [Option.map_some, Option.bind_some]
    cases Signature.parseClass text with
    | error error => exact ⟨rfl, rfl⟩
    | ok signature => exact ⟨Owner.diagnostics_verdict _ _ _, Owner.kept?_verdict _ _ _⟩

theorem ClassInfo.signatureFault?_eq_none_iff (info : ClassInfo) :
    info.signatureFault? = none ↔ ∀ text, info.signature = some text →
      ∃ signature, Signature.parseClass text = .ok signature ∧
        signature.parameterNames.Nodup := by
  unfold signatureFault?
  cases info.signature with
  | none => simp
  | some text =>
    cases parsed : Signature.parseClass text <;>
      simp [parsed, Owner.repeatFault?_eq_none_iff]

/-- A signature without a fault was read. -/
theorem ClassInfo.usableSignature?_eq_some {info : ClassInfo}
    (faultless : info.signatureFault? = none) {text : String}
    (own : info.signature = some text) :
    ∃ signature, Signature.parseClass text = .ok signature ∧
      info.usableSignature? = some signature := by
  obtain ⟨signature, parsed, -⟩ := info.signatureFault?_eq_none_iff.mp faultless text own
  refine ⟨signature, parsed, ?_⟩
  rw [usableSignature?, faultless, own, Option.bind_some, parsed]
  rfl

namespace MethodInfo

variable {className : String} {taken : List MethodKey}

/-- A method declares its type parameters unless a method with the same key did so before. -/
theorem isGeneric_verdict (className : String) (taken : List MethodKey) (info : MethodInfo) :
    (info.verdict className taken).isGeneric =
      (info.declaresParameters && decide (info.key ∉ taken)) := by
  unfold verdict declaresParameters
  cases info.signature.map Signature.parseMethod with
  | none => rfl
  | some parsed =>
    cases parsed with
    | error error => rfl
    | ok signature =>
      dsimp only
      by_cases plain : signature.typeParameters.isEmpty
      · simp [Verdict.isGeneric, plain]
      · rw [if_neg plain]
        by_cases before : info.key ∈ taken
        · simp [Verdict.isGeneric, before]
        · rw [if_neg before, Owner.isGeneric_verdict]
          simp [plain, before]

theorem verdict_of_mem_iff {others : List MethodKey} {info : MethodInfo}
    (same : info.key ∈ taken ↔ info.key ∈ others) :
    info.verdict className taken = info.verdict className others := by
  simp only [verdict, same]

theorem signatureFault?_eq_none_iff (className : String) (earlier : List MethodInfo)
    (info : MethodInfo) :
    info.signatureFault? className earlier = none ↔ ∀ text, info.signature = some text →
      ∃ signature, Signature.parseMethod text = .ok signature ∧
        (signature.typeParameters ≠ [] →
          info.key ∉ declaredKeys earlier ∧ signature.parameterNames.Nodup) := by
  unfold signatureFault?
  cases info.signature with
  | none => simp
  | some text =>
    cases parsed : Signature.parseMethod text with
    | error error => simp [parsed]
    | ok signature =>
      by_cases plain : signature.typeParameters = []
      · simp [parsed, plain]
      · by_cases before : info.key ∈ declaredKeys earlier <;>
          simp [parsed, plain, before, Owner.repeatFault?_eq_none_iff]

/-- A signature without a fault was read. -/
theorem usableSignature?_eq_some {earlier : List MethodInfo} {info : MethodInfo}
    (faultless : info.signatureFault? className earlier = none) {text : String}
    (own : info.signature = some text) :
    ∃ signature, Signature.parseMethod text = .ok signature ∧
      info.usableSignature? className earlier = some signature := by
  obtain ⟨signature, parsed, -⟩ :=
    (signatureFault?_eq_none_iff className earlier info).mp faultless text own
  refine ⟨signature, parsed, ?_⟩
  rw [usableSignature?, faultless, own, Option.bind_some, parsed]
  rfl

theorem declaredKeys_cons (info : MethodInfo) (rest : List MethodInfo) :
    declaredKeys (info :: rest) =
      if info.declaresParameters then info.key :: declaredKeys rest else declaredKeys rest := by
  rw [declaredKeys, List.filter_cons]
  split <;> rfl

/-- The keys that are taken after one method more. -/
theorem mem_taken_iff (info : MethodInfo) (earlier : List MethodInfo) (key : MethodKey) :
    key ∈ declaredKeys earlier ++
        (if (info.verdict className taken).isGeneric then info.key :: taken else taken) ↔
      key ∈ declaredKeys (info :: earlier) ++ taken := by
  rw [isGeneric_verdict, declaredKeys_cons]
  cases info.declaresParameters with
  | false => rfl
  | true =>
    by_cases before : info.key ∈ taken
    · -- The key was taken before, so it makes no difference that the method comes too late.
      have isTaken : key = info.key → key ∈ taken := fun same => same ▸ before
      simp only [before, not_true_eq_false, decide_false, Bool.and_false, Bool.false_eq_true,
        if_false, if_true, List.mem_append, List.mem_cons]
      tauto
    · simp only [before, not_false_eq_true, decide_true, Bool.and_true, if_true,
        List.mem_append, List.mem_cons]
      tauto

/-- The verdict on a method depends on the type parameters that are declared before it. -/
theorem verdictEach_eq (className : String) (taken : List MethodKey) (infos : List MethodInfo) :
    verdictEach className taken infos = (withEarlier infos).map fun entry =>
      (entry.2, entry.2.verdict className (declaredKeys entry.1 ++ taken)) := by
  induction infos generalizing taken with
  | nil => rfl
  | cons info rest ih =>
    rw [verdictEach, ih, withEarlier_cons, List.map_cons, List.map_map]
    refine congrArg (_ :: ·) (List.map_congr_left fun entry _ => Prod.ext rfl ?_)
    exact verdict_of_mem_iff (mem_taken_iff info entry.1 entry.2.key)

/-- What a method keeps and what is reported, by its fault. -/
theorem verdict_spec (className : String) (earlier : List MethodInfo) (info : MethodInfo) :
    let verdict := info.verdict className (declaredKeys earlier)
    verdict.diagnostics (.ofMethod className info.key) =
        (info.signatureFault? className earlier).toList ∧
      verdict.kept? = info.usableSignature? className earlier := by
  intro verdict
  simp only [verdict]
  unfold MethodInfo.verdict usableSignature? signatureFault?
  cases info.signature with
  | none => exact ⟨rfl, rfl⟩
  | some text =>
    rw [Option.map_some, Option.bind_some]
    cases Signature.parseMethod text with
    | error error => exact ⟨rfl, rfl⟩
    | ok signature =>
      by_cases plain : signature.typeParameters.isEmpty
      · simp only [if_pos plain]
        exact ⟨rfl, rfl⟩
      · simp only [if_neg plain]
        by_cases before : info.key ∈ declaredKeys earlier
        · simp only [if_pos before]
          exact ⟨rfl, rfl⟩
        · simp only [if_neg before]
          exact ⟨Owner.diagnostics_verdict _ _ _, Owner.kept?_verdict _ _ _⟩

end MethodInfo

theorem ClassInfo.methodVerdicts_eq (info : ClassInfo) :
    info.methodVerdicts = (withEarlier info.methods).map fun entry =>
      (entry.2, entry.2.verdict info.name (MethodInfo.declaredKeys entry.1)) := by
  simp only [methodVerdicts, MethodInfo.verdictEach_eq, List.append_nil]

theorem MethodInfo.resolutionDiagnostics_usableSignature? (className : String)
    (earlier : List MethodInfo) (info : MethodInfo) :
    info.resolutionDiagnostics className (info.usableSignature? className earlier) =
      (info.descriptorFault? className earlier).toList := by
  unfold resolutionDiagnostics descriptorFault?
  cases info.usableSignature? className earlier with
  | some signature => rfl
  | none => cases MethodDescriptor.parse info.key.descriptor <;> rfl

/-- What is reported of a class, when it is declared and when it is resolved, are its faults. -/
theorem ClassInfo.diagnostics_perm_faults (info : ClassInfo) :
    (info.declarationDiagnostics ++ info.resolutionDiagnostics).Perm info.faults := by
  have spec (entry : List MethodInfo × MethodInfo) :=
    MethodInfo.verdict_spec info.name entry.1 entry.2
  rw [declarationDiagnostics, resolutionDiagnostics, methodVerdicts_eq, List.flatMap_map,
    List.flatMap_map, List.append_assoc, info.verdict_spec.1, faults]
  refine List.Perm.append_left _ ?_
  simp only [(spec _).1, (spec _).2, MethodInfo.resolutionDiagnostics_usableSignature?]
  exact List.flatMap_append_perm _ _ _

theorem Owner.className_of_repeatFault? {owner : Owner} {names : List String}
    {fault : Diagnostic} (found : owner.repeatFault? names = some fault) :
    fault.className = owner.className := by
  obtain ⟨name, -, rfl⟩ := Option.map_eq_some_iff.mp found
  rfl

theorem MethodInfo.className_of_mem_faults {className : String} {earlier : List MethodInfo}
    {info : MethodInfo} {fault : Diagnostic} (member : fault ∈ info.faults className earlier) :
    fault.className = className := by
  rw [faults, List.mem_append, Option.mem_toList, Option.mem_toList] at member
  rcases member with own | own
  · unfold signatureFault? at own
    split at own
    · cases own
    · cases own
      rfl
    · dsimp only at own
      split at own
      · cases own
      · split at own
        · cases own
          rfl
        · exact Owner.className_of_repeatFault? own
  · unfold descriptorFault? at own
    split at own
    · cases own
      rfl
    · cases own

/-- The faults of a class carry its name. -/
theorem ClassInfo.className_of_mem_faults {info : ClassInfo} {fault : Diagnostic}
    (member : fault ∈ info.faults) : fault.className = info.name := by
  rw [faults, List.mem_append, Option.mem_toList, List.mem_flatMap] at member
  rcases member with own | ⟨⟨earlier, method⟩, -, own⟩
  · unfold signatureFault? at own
    split at own
    · cases own
    · cases own
      rfl
    · exact Owner.className_of_repeatFault? own
  · exact MethodInfo.className_of_mem_faults own

namespace Imported

/-- A class is published from a signature: the parameters of its scope and its supertypes are
what the signature says, as it is read in a given chain. -/
structure ClassReadFrom (imported : Imported) (chain : ScopeChain) (published : ImportedClass)
    (signature : Signature.ClassSignature) : Prop where
  parameters : imported.parameters published.scope =
    (imported.view chain).parametersOf signature.typeParameters
  supertypes : published.supertypes = ((imported.view chain).supertypes signature).run

/-- A method is published from a signature: the parameters of its scope and its types are
what the signature says, as it is read in a given chain. -/
structure MethodReadFrom (imported : Imported) (chain : ScopeChain) (published : ImportedMethod)
    (signature : Signature.MethodSignature) : Prop where
  parameters : imported.parameters published.scope =
    (imported.view chain).parametersOf signature.typeParameters
  types : published.types = ((imported.view chain).methodTypes signature).run

end Imported

namespace Imported.Outcome

variable {sources : ImportSources} {batch : List ClassInfo} {imported : Imported}
variable {state : ImportState} {chain : ScopeChain}

theorem diagnostics_perm_faults (outcome : imported.Outcome sources batch state) :
    imported.diagnostics.Perm
      (((ClassInfo.repeatsOf batch).map fun info => .duplicateClass info.name) ++
        imported.classes.flatMap fun published => published.info.faults) := by
  have infos := outcome.infos_eq
  have reported := outcome.sound.diagnostics
  rw [← List.flatMap_map DeclaredClass.info ClassInfo.declarationDiagnostics,
    ← List.flatMap_map DeclaredClass.info ClassInfo.resolutionDiagnostics, ← infos,
    ← outcome.diagnostics, ClassInfo.repeatDiagnostics_eq] at reported
  rw [← List.flatMap_map ImportedClass.info ClassInfo.faults]
  refine reported.trans ((List.perm_append_comm_assoc _ _ _).trans (List.Perm.append_left _ ?_))
  exact (List.flatMap_append_perm _ _ _).trans
    (List.Perm.flatMap_left _ fun info _ => info.diagnostics_perm_faults)

/-- What is left of the signature of a class is what can be used of it. -/
theorem signature?_eq_usable (outcome : imported.Outcome sources batch state)
    {published : ImportedClass} (member : published ∈ imported.classes) :
    published.signature? = published.info.usableSignature? := by
  obtain ⟨declared, inTable, chain, resolved⟩ := outcome.exists_resolved member
  obtain ⟨next, shape⟩ := outcome.sound.declared declared inTable
  have kept := ClassInfo.signature?_declaredAt declared.origin next declared.info
  rw [← shape] at kept
  rw [outcome.signature?_eq inTable resolved, kept, resolved.info_eq]
  exact declared.info.verdict_spec.2

/-- The same holds for the methods, each with those before it. -/
theorem signature?_methods_eq_usable (outcome : imported.Outcome sources batch state)
    {published : ImportedClass} (member : published ∈ imported.classes) :
    ∀ entry ∈ withEarlier published.methods, entry.2.signature? =
      entry.2.info.usableSignature? published.name (entry.1.map ImportedMethod.info) := by
  obtain ⟨declared, inTable, chain, resolved⟩ := outcome.exists_resolved member
  obtain ⟨next, shape⟩ := outcome.sound.declared declared inTable
  have ofMethods : published.methods.map ImportedMethod.signature? =
      declared.methods.map fun method => method.generics.signature? := by
    rw [resolved.value, ImportSources.resolvedClass, List.map_map]
    exact List.map_congr_left fun method own => outcome.signature?_method_eq inTable own
  have ofVerdicts : (declared.methods.map fun method => method.generics.signature?) =
      declared.info.methodVerdicts.map fun method => method.2.kept? := by
    rw [shape, List.map_eq_flatMap, List.map_eq_flatMap]
    exact DeclaredMethod.flatMap_numberEach (fun _ kept => [kept]) _ _
  rw [ofVerdicts, ClassInfo.methodVerdicts_eq, ← resolved.info_eq, ← outcome.methods_eq member,
    withEarlier_map, List.map_map, List.map_map] at ofMethods
  nth_rewrite 1 [← map_snd_withEarlier published.methods] at ofMethods
  rw [List.map_map] at ofMethods
  intro entry listed
  exact (List.map_inj_left.mp ofMethods entry listed).trans (MethodInfo.verdict_spec _ _ _).2

/-- A class whose signature has no fault is published from it. -/
theorem classReadFrom (outcome : imported.Outcome sources batch state)
    {published : ImportedClass} (member : published ∈ imported.classes)
    (resolved : imported.ResolvedIn chain published) {text : String}
    (own : published.info.signature = some text)
    (faultless : published.info.signatureFault? = none) :
    ∃ signature, Signature.parseClass text = .ok signature ∧
      imported.ClassReadFrom chain published signature := by
  obtain ⟨signature, parsed, usable⟩ := ClassInfo.usableSignature?_eq_some faultless own
  have kept : published.signature? = some signature :=
    (outcome.signature?_eq_usable member).trans usable
  have parameters := resolved.parameters
  have supertypes := resolved.supertypes
  rw [kept] at parameters supertypes
  exact ⟨signature, parsed, parameters, supertypes⟩

/-- A method whose signature has no fault is published from it. -/
theorem methodReadFrom (outcome : imported.Outcome sources batch state)
    {published : ImportedClass} (member : published ∈ imported.classes)
    (resolved : imported.ResolvedIn chain published)
    {entry : List ImportedMethod × ImportedMethod} (listed : entry ∈ withEarlier published.methods)
    {text : String} (own : entry.2.info.signature = some text)
    (faultless : entry.2.info.signatureFault? published.name
      (entry.1.map ImportedMethod.info) = none) :
    ∃ signature, Signature.parseMethod text = .ok signature ∧
      imported.MethodReadFrom (entry.2.scope.toList ++ chain) entry.2 signature := by
  obtain ⟨signature, parsed, usable⟩ := MethodInfo.usableSignature?_eq_some faultless own
  have kept : entry.2.signature? = some signature :=
    (outcome.signature?_methods_eq_usable member entry listed).trans usable
  have isMethod : entry.2 ∈ published.methods := by
    rw [← map_snd_withEarlier published.methods]
    exact List.mem_map_of_mem listed
  obtain ⟨types, parameters⟩ := resolved.methods entry.2 isMethod
  rw [kept] at types parameters
  exact ⟨signature, parsed, parameters, types⟩

end Imported.Outcome

/-- The diagnostics of an import are one for each class of the batch that repeats a name, and
the faults of the published classes and their methods, which carry the name of the class.
Every class and every method whose signature has no fault is published from it. -/
theorem diagnostics_exact (options : ImportOptions) (classpath : Classpath)
    (batch : List ClassInfo) :
    let imported := importClasses options classpath batch
    imported.diagnostics.Perm
        (((ClassInfo.repeatsOf batch).map fun info => .duplicateClass info.name) ++
          imported.classes.flatMap fun published => published.info.faults) ∧
      ∀ published ∈ imported.classes,
        (∀ fault ∈ published.info.faults, fault.className = published.name) ∧
        published.methods.map ImportedMethod.info = published.info.methods ∧
        ∃ chain, imported.IsLexicalChain published chain ∧
          (∀ text, published.info.signature = some text →
            published.info.signatureFault? = none →
            ∃ signature, Signature.parseClass text = .ok signature ∧
              imported.ClassReadFrom chain published signature) ∧
          ∀ entry ∈ withEarlier published.methods, ∀ text, entry.2.info.signature = some text →
            entry.2.info.signatureFault? published.name
              (entry.1.map ImportedMethod.info) = none →
            ∃ signature, Signature.parseMethod text = .ok signature ∧
              imported.MethodReadFrom (entry.2.scope.toList ++ chain) entry.2 signature := by
  intro imported
  have outcome := importClasses_outcome_lastState options classpath batch
  refine ⟨outcome.diagnostics_perm_faults, fun published member =>
    ⟨fun fault => ClassInfo.className_of_mem_faults, outcome.methods_eq member, ?_⟩⟩
  obtain ⟨declared, inTable, chain, resolved⟩ := outcome.exists_resolved member
  have resolvedIn := outcome.resolvedIn inTable resolved
  exact ⟨chain, outcome.isLexicalChain resolved,
    fun text => outcome.classReadFrom member resolvedIn,
    fun entry listed text => outcome.methodReadFrom member resolvedIn listed⟩

/-- A class whose own signature cannot be read. Of its methods, the second declares the type
parameters of the first one again, and the last has neither a signature nor a descriptor that
can be read. -/
def ClassInfo.faulty : ClassInfo :=
  ⟨"Faulty", some "?", none, [], none,
    [⟨⟨"get", "()LBase;"⟩, some "<U:LBase;>()TU;"⟩, ⟨⟨"get", "()LBase;"⟩, some "<U:LBase;>()TU;"⟩,
      ⟨⟨"set", "?"⟩, some "?"⟩]⟩

set_option maxRecDepth 20000 in
/-- All kinds of diagnostics at once. `Box` and its method are published from their signatures
all the same. -/
theorem diagnostics_exact_box :
    let imported := importClasses .standard .empty [.box, .faulty, .pair, .otherBox]
    (imported.diagnostics.map Diagnostic.code).Perm
        ["duplicate-class", "malformed-signature", "invalid-type-parameters",
          "malformed-signature", "malformed-descriptor", "invalid-type-parameters"] ∧
      ∃ chain, (∃ signature, Signature.parseClass "<T:>LBase;" = .ok signature ∧
          imported.ClassReadFrom chain .box signature) ∧
        ∃ method ∈ ImportedClass.box.methods, ∃ signature,
          Signature.parseMethod "<U:TT;>()TU;" = .ok signature ∧
            imported.MethodReadFrom (method.scope.toList ++ chain) method signature := by
  intro imported
  obtain ⟨diagnostics, published⟩ :=
    diagnostics_exact .standard .empty [.box, .faulty, .pair, .otherBox]
  refine ⟨(diagnostics.map Diagnostic.code).trans (List.Perm.of_eq ?_), ?_⟩
  · decide +kernel
  · obtain ⟨-, -, chain, -, ofClass, ofMethods⟩ := published .box (by decide +kernel)
    refine ⟨chain, ofClass "<T:>LBase;" rfl (by decide +kernel), _, List.mem_singleton_self _, ?_⟩
    exact ofMethods ([], _) (List.mem_singleton_self _) "<U:TT;>()TU;" rfl (by decide +kernel)

end JvmGenerics
