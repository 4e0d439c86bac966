import JvmGenerics.Proofs.Import.Copies

/-!
# Leaving out signatures

A signature that cannot be used is as good as none. So a class without some of its unusable
signatures is declared like the class itself: the same signatures are left of it, it asks
the same questions, and all that it lacks are the diagnostics of the signatures left out.
-/

namespace JvmGenerics

/-- Which texts may be left out, where they are signatures of classes or of methods. -/
structure SignatureTexts where
  ofClass : String → Prop
  ofMethod : String → Prop

namespace SignatureTexts

/-- The texts that cannot be read. -/
def malformed : SignatureTexts where
  ofClass text := ∃ error, Signature.parseClass text = .error error
  ofMethod text := ∃ error, Signature.parseMethod text = .error error

/-- The texts that can be read, but have two type parameters of one name. -/
def repeating : SignatureTexts where
  ofClass text := ∃ signature, Signature.parseClass text = .ok signature ∧
    ¬ signature.parameterNames.Nodup
  ofMethod text := ∃ signature, Signature.parseMethod text = .ok signature ∧
    ¬ signature.parameterNames.Nodup

/-- The texts that cannot be read or have two type parameters of one name. -/
def unusable : SignatureTexts where
  ofClass text :=
    ∀ signature, Signature.parseClass text = .ok signature → ¬ signature.parameterNames.Nodup
  ofMethod text :=
    ∀ signature, Signature.parseMethod text = .ok signature → ¬ signature.parameterNames.Nodup

section Decidable

variable {α : Type} {result : Except Signature.ParseError α}

instance : Decidable (∃ error, result = .error error) :=
  match result with
  | .error error => isTrue ⟨error, rfl⟩
  | .ok _ => isFalse fun found => nomatch found.choose_spec

instance {holds : α → Prop} [DecidablePred holds] :
    Decidable (∃ value, result = .ok value ∧ holds value) :=
  match result with
  | .error _ => isFalse fun found => nomatch found.choose_spec.1
  | .ok value => decidable_of_iff (holds value)
      ⟨fun own => ⟨value, rfl, own⟩, fun ⟨_, same, own⟩ => Except.ok.inj same ▸ own⟩

instance (text : String) : Decidable (malformed.ofClass text) :=
  inferInstanceAs (Decidable (∃ error, Signature.parseClass text = .error error))

instance (text : String) : Decidable (malformed.ofMethod text) :=
  inferInstanceAs (Decidable (∃ error, Signature.parseMethod text = .error error))

instance (text : String) : Decidable (repeating.ofClass text) :=
  inferInstanceAs (Decidable (∃ signature, Signature.parseClass text = .ok signature ∧
    ¬ signature.parameterNames.Nodup))

instance (text : String) : Decidable (repeating.ofMethod text) :=
  inferInstanceAs (Decidable (∃ signature, Signature.parseMethod text = .ok signature ∧
    ¬ signature.parameterNames.Nodup))

end Decidable

/-- All texts that may be left out are unusable. -/
structure Unusable (texts : SignatureTexts) : Prop where
  ofClass : ∀ text, texts.ofClass text → unusable.ofClass text
  ofMethod : ∀ text, texts.ofMethod text → unusable.ofMethod text

theorem unusable_malformed : malformed.Unusable where
  ofClass := by
    rintro text ⟨error, parsed⟩ signature readable
    rw [parsed] at readable
    cases readable
  ofMethod := by
    rintro text ⟨error, parsed⟩ signature readable
    rw [parsed] at readable
    cases readable

theorem unusable_repeating : repeating.Unusable where
  ofClass := by
    rintro text ⟨kept, parsed, repeated⟩ signature readable
    obtain rfl := Except.ok.inj (parsed.symm.trans readable)
    exact repeated
  ofMethod := by
    rintro text ⟨kept, parsed, repeated⟩ signature readable
    obtain rfl := Except.ok.inj (parsed.symm.trans readable)
    exact repeated

theorem unusable_unusable : unusable.Unusable :=
  ⟨fun _ => id, fun _ => id⟩

end SignatureTexts

/-- The same signature, or none instead of one that may be left out. -/
def Forgotten (droppable : String → Prop) (signature other : Option String) : Prop :=
  other = signature ∨ other = none ∧ ∃ text, signature = some text ∧ droppable text

/-- The same method, possibly without its signature. -/
structure MethodInfo.Forgets (texts : SignatureTexts) (info other : MethodInfo) : Prop where
  key : other.key = info.key
  signature : Forgotten texts.ofMethod info.signature other.signature

/-- The same class, possibly without its signature or those of some methods. -/
structure ClassInfo.Forgets (texts : SignatureTexts) (info other : ClassInfo) : Prop where
  name : other.name = info.name
  signature : Forgotten texts.ofClass info.signature other.signature
  superclass : other.superclass = info.superclass
  interfaces : other.interfaces = info.interfaces
  enclosing : other.enclosing = info.enclosing
  methods : List.Forall₂ (MethodInfo.Forgets texts) info.methods other.methods

/-- A classpath that finds the same classes, possibly without some of their signatures. -/
def Classpath.Forgets (texts : SignatureTexts) (classpath other : Classpath) : Prop :=
  ∀ name, Option.Rel (ClassInfo.Forgets texts) (classpath.load name) (other.load name)

section Forgets

variable {texts : SignatureTexts}

theorem ClassInfo.Forgets.refl (texts : SignatureTexts) (info : ClassInfo) :
    info.Forgets texts info :=
  ⟨rfl, Or.inl rfl, rfl, rfl, rfl, List.forall₂_same.mpr fun _ _ => ⟨rfl, Or.inl rfl⟩⟩

/-- A class may be left without its own signature. -/
theorem ClassInfo.forgets_own {info : ClassInfo} {text : String}
    (signature : info.signature = some text) (droppable : texts.ofClass text) :
    info.Forgets texts { info with signature := none } :=
  ⟨rfl, Or.inr ⟨rfl, text, signature, droppable⟩, rfl, rfl, rfl,
    (ClassInfo.Forgets.refl texts info).methods⟩

theorem Classpath.forgets_ofTable {table others : List (String × ClassInfo)}
    (same : List.Forall₂ (fun entry other => other.1 = entry.1 ∧ entry.2.Forgets texts other.2)
      table others) : (ofTable table).Forgets texts (ofTable others) := by
  intro name
  change Option.Rel (ClassInfo.Forgets texts) (table.lookup name) (others.lookup name)
  induction same with
  | nil => exact .none
  | cons head _ ih =>
    rw [List.lookup_cons, List.lookup_cons, head.1]
    split
    · exact .some head.2
    · exact ih

/-- A classpath of given classes finds what is left of them. -/
theorem Classpath.forgets_ofClasses {classes others : List ClassInfo}
    (same : List.Forall₂ (ClassInfo.Forgets texts) classes others) :
    (ofClasses classes).Forgets texts (ofClasses others) := by
  refine forgets_ofTable (List.rel_reverse (forall₂_map_iff.mpr ?_))
  exact same.imp fun _ _ forgets => ⟨forgets.name, forgets⟩

end Forgets

/-- The diagnostics of the signatures that a class lacks in another form of it. -/
def ClassInfo.forgotten (info other : ClassInfo) : List Diagnostic :=
  (if other.signature = info.signature then []
    else info.verdict.diagnostics (.ofClass info.name)) ++
  (info.methodVerdicts.zip other.methodVerdicts).flatMap fun pair =>
    if pair.2.1.signature = pair.1.1.signature then []
    else pair.1.2.diagnostics (.ofMethod info.name pair.1.1.key)

theorem Owner.kept?_of_repeat {α : Type} (owner : Owner) {names : List String} (signature : α)
    (repeated : ¬ names.Nodup) : (owner.verdict names signature).kept? = none := by
  unfold Owner.verdict
  split
  · rfl
  · next distinct => exact absurd ((firstRepeat_nil_eq_none_iff names).mp distinct) repeated

theorem ClassInfo.verdict_congr {info other : ClassInfo} (name : other.name = info.name)
    (signature : other.signature = info.signature) : other.verdict = info.verdict := by
  rw [verdict, verdict, name, signature]

theorem ClassInfo.verdict_of_none {info : ClassInfo} (none : info.signature = none) :
    info.verdict = .absent := by
  rw [verdict, none]
  rfl

theorem ClassInfo.verdict_of_malformed {info : ClassInfo} {text : String}
    (signature : info.signature = some text) (malformed : SignatureTexts.malformed.ofClass text) :
    ∃ error, info.verdict = .malformed error := by
  obtain ⟨error, parsed⟩ := malformed
  refine ⟨error, ?_⟩
  rw [verdict, signature, Option.map_some, parsed]

theorem ClassInfo.verdict_ne_malformed {info : ClassInfo} {text : String}
    {kept : Signature.ClassSignature} (signature : info.signature = some text)
    (parsed : Signature.parseClass text = .ok kept) (error : Signature.ParseError) :
    info.verdict ≠ .malformed error := by
  simp only [verdict, signature, Option.map_some, parsed, Owner.verdict]
  cases firstRepeat [] kept.parameterNames <;> simp

theorem ClassInfo.kept?_of_unusable {info : ClassInfo} {text : String}
    (signature : info.signature = some text) (unusable : SignatureTexts.unusable.ofClass text) :
    info.verdict.kept? = none := by
  rw [verdict, signature, Option.map_some]
  cases parsed : Signature.parseClass text with
  | error error => rfl
  | ok kept => exact Owner.kept?_of_repeat _ kept (unusable kept parsed)

theorem MethodInfo.verdict_congr {info other : MethodInfo} (key : other.key = info.key)
    (signature : other.signature = info.signature) (className : String)
    (taken : List MethodKey) : other.verdict className taken = info.verdict className taken := by
  rw [verdict, verdict, key, signature]

theorem MethodInfo.verdict_of_none {info : MethodInfo} (none : info.signature = none)
    (className : String) (taken : List MethodKey) : info.verdict className taken = .absent := by
  rw [verdict, none]
  rfl

theorem MethodInfo.verdict_of_malformed {info : MethodInfo} {text : String}
    (signature : info.signature = some text) (malformed : SignatureTexts.malformed.ofMethod text)
    (className : String) (taken : List MethodKey) :
    ∃ error, info.verdict className taken = .malformed error := by
  obtain ⟨error, parsed⟩ := malformed
  refine ⟨error, ?_⟩
  rw [verdict, signature, Option.map_some, parsed]

theorem MethodInfo.verdict_ne_malformed {info : MethodInfo} {text : String}
    {kept : Signature.MethodSignature} (signature : info.signature = some text)
    (parsed : Signature.parseMethod text = .ok kept) (className : String)
    (taken : List MethodKey) (error : Signature.ParseError) :
    info.verdict className taken ≠ .malformed error := by
  simp only [verdict, signature, Option.map_some, parsed, Owner.verdict]
  by_cases plain : kept.typeParameters.isEmpty
  · simp [plain]
  · by_cases present : info.key ∈ taken
    · simp [plain, present]
    · cases repeated : firstRepeat [] kept.parameterNames <;> simp [plain, present]

theorem MethodInfo.kept?_of_unusable {info : MethodInfo} {text : String}
    (signature : info.signature = some text) (unusable : SignatureTexts.unusable.ofMethod text)
    (className : String) (taken : List MethodKey) :
    (info.verdict className taken).kept? = none := by
  rw [verdict, signature, Option.map_some]
  cases parsed : Signature.parseMethod text with
  | error error => rfl
  | ok kept =>
    have repeated := unusable kept parsed
    have generic : kept.typeParameters.isEmpty = false := by
      cases parameters : kept.typeParameters with
      | nil => simp [Signature.MethodSignature.parameterNames, parameters] at repeated
      | cons _ _ => rfl
    simp only [generic, Bool.false_eq_true, if_false]
    split
    · rfl
    · exact Owner.kept?_of_repeat _ kept repeated

/-- Whether a method declares type parameters is known from what is left of its signature. -/
theorem Verdict.isGeneric_congr {verdict other : Verdict Signature.MethodSignature}
    (kept? : other.kept? = verdict.kept?) : other.isGeneric = verdict.isGeneric := by
  cases verdict <;> cases other <;> simp_all [Verdict.kept?, isGeneric]

/-- What a declaration makes of a method is known from what is left of its signature. -/
theorem MethodGenerics.ofVerdict_congr {verdict other : Verdict Signature.MethodSignature}
    (kept? : other.kept? = verdict.kept?) (next : ScopeId) :
    ofVerdict next other = ofVerdict next verdict := by
  cases verdict <;> cases other <;> simp_all [Verdict.kept?, ofVerdict]

/-- The verdicts on a method and on the same method, possibly without its signature. -/
structure MethodInfo.ForgetsVerdict (texts : SignatureTexts)
    (method other : MethodInfo × Verdict Signature.MethodSignature) : Prop where
  info : method.1.Forgets texts other.1
  kept? : other.2.kept? = method.2.kept?
  same : other.1.signature = method.1.signature → other.2 = method.2
  absent : other.1.signature ≠ method.1.signature → other.2 = .absent

section Unusable

variable {texts : SignatureTexts} (unusable : texts.Unusable)
include unusable

theorem MethodInfo.Forgets.forgetsVerdict {info other : MethodInfo}
    (forgets : info.Forgets texts other) (className : String) (taken : List MethodKey) :
    ForgetsVerdict texts (info, info.verdict className taken)
      (other, other.verdict className taken) := by
  rcases forgets.signature with same | ⟨none, text, signature, droppable⟩
  · have verdict := MethodInfo.verdict_congr forgets.key same className taken
    exact ⟨forgets, congrArg _ verdict, fun _ => verdict, fun different => absurd same different⟩
  · have absent := MethodInfo.verdict_of_none none className taken
    have kept? := MethodInfo.kept?_of_unusable signature (unusable.ofMethod text droppable)
      className taken
    refine ⟨forgets, ?_, fun same => ?_, fun _ => absent⟩
    · rw [absent, kept?]
      rfl
    · rw [none, signature] at same
      cases same

theorem MethodInfo.verdictEach_forgets {infos others : List MethodInfo}
    (methods : List.Forall₂ (MethodInfo.Forgets texts) infos others) (className : String)
    (taken : List MethodKey) :
    List.Forall₂ (ForgetsVerdict texts) (verdictEach className taken infos)
      (verdictEach className taken others) := by
  induction methods generalizing taken with
  | nil => exact .nil
  | cons head _ ih =>
    have verdict := head.forgetsVerdict unusable className taken
    rw [verdictEach, verdictEach]
    refine .cons verdict ?_
    rw [Verdict.isGeneric_congr verdict.kept?, head.key]
    exact ih _

variable {info other : ClassInfo} (forgets : info.Forgets texts other)
include forgets

theorem ClassInfo.Forgets.kept?_eq : other.verdict.kept? = info.verdict.kept? := by
  rcases forgets.signature with same | ⟨none, text, signature, droppable⟩
  · rw [ClassInfo.verdict_congr forgets.name same]
  · rw [ClassInfo.verdict_of_none none,
      ClassInfo.kept?_of_unusable signature (unusable.ofClass text droppable)]
    rfl

theorem ClassInfo.Forgets.methodVerdicts :
    List.Forall₂ (MethodInfo.ForgetsVerdict texts) info.methodVerdicts other.methodVerdicts := by
  rw [ClassInfo.methodVerdicts, ClassInfo.methodVerdicts, forgets.name]
  exact MethodInfo.verdictEach_forgets unusable forgets.methods info.name []

theorem ClassInfo.Forgets.resolutionDiagnostics_eq :
    other.resolutionDiagnostics = info.resolutionDiagnostics := by
  refine (flatMap_eq_of_forall₂ (forgets.methodVerdicts unusable)
    fun method otherMethod same => ?_).symm
  rw [same.kept?, forgets.name]
  cases method.2.kept? with
  | some _ => rfl
  | none => simp only [MethodInfo.resolutionDiagnostics, same.info.key]

omit unusable in
theorem ClassInfo.Forgets.diagnostics_eq :
    info.verdict.diagnostics (.ofClass info.name) =
      other.verdict.diagnostics (.ofClass other.name) ++
        if other.signature = info.signature then []
        else info.verdict.diagnostics (.ofClass info.name) := by
  rcases forgets.signature with same | ⟨none, text, signature, -⟩
  · rw [if_pos same, ClassInfo.verdict_congr forgets.name same, forgets.name, List.append_nil]
  · have different : other.signature ≠ info.signature := by
      rw [none, signature]
      exact nofun
    rw [if_neg different, ClassInfo.verdict_of_none none]
    rfl

end Unusable

theorem MethodInfo.ForgetsVerdict.diagnostics_eq {texts : SignatureTexts}
    {method other : MethodInfo × Verdict Signature.MethodSignature}
    (same : ForgetsVerdict texts method other) (className : String) :
    method.2.diagnostics (.ofMethod className method.1.key) =
      other.2.diagnostics (.ofMethod className other.1.key) ++
        if other.1.signature = method.1.signature then []
        else method.2.diagnostics (.ofMethod className method.1.key) := by
  by_cases signature : other.1.signature = method.1.signature
  · rw [if_pos signature, same.same signature, same.info.key, List.append_nil]
  · rw [if_neg signature, same.absent signature]
    rfl

section Unusable

variable {texts : SignatureTexts} (unusable : texts.Unusable)
variable {info other : ClassInfo} (forgets : info.Forgets texts other)
include unusable forgets

/-- Without some signatures, a class is declared with fewer diagnostics. -/
theorem ClassInfo.Forgets.declarationDiagnostics_sublist :
    other.declarationDiagnostics.Sublist info.declarationDiagnostics := by
  refine List.Sublist.append ?_ (flatMap_sublist_of_forall₂ (forgets.methodVerdicts unusable)
    fun method otherMethod same => ?_)
  · rw [forgets.diagnostics_eq]
    exact List.sublist_append_left _ _
  · rw [same.diagnostics_eq, forgets.name]
    exact List.sublist_append_left _ _

/-- The diagnostics of a declaration that are missing belong to the signatures that are. -/
theorem ClassInfo.Forgets.declarationDiagnostics_perm :
    info.declarationDiagnostics.Perm (other.declarationDiagnostics ++ info.forgotten other) := by
  have methods := flatMap_perm_of_forall₂ (forgets.methodVerdicts unusable)
    fun method otherMethod same => .of_eq (same.diagnostics_eq info.name)
  have own := List.Perm.of_eq forgets.diagnostics_eq
  rw [ClassInfo.declarationDiagnostics, ClassInfo.declarationDiagnostics, ClassInfo.forgotten,
    forgets.name]
  rw [forgets.name] at own
  exact (own.append methods).trans (perm_append_swap _ _ _ _)

end Unusable

/-- Texts that may be left out, with the codes of the diagnostics that they cause. -/
structure SignatureTexts.ReportedAs (texts : SignatureTexts) (codes : List String) : Prop where
  ofClass : ∀ {info : ClassInfo} {text : String}, info.signature = some text →
    texts.ofClass text → ∀ diagnostic ∈ info.verdict.diagnostics (.ofClass info.name),
      diagnostic.code ∈ codes
  ofMethod : ∀ {info : MethodInfo} {text className : String} {taken : List MethodKey},
    info.signature = some text → texts.ofMethod text →
      ∀ diagnostic ∈ (info.verdict className taken).diagnostics (.ofMethod className info.key),
        diagnostic.code ∈ codes

/-- The code of a diagnostic tells why the signature was dropped. -/
theorem Verdict.code_of_mem_diagnostics {α : Type} {verdict : Verdict α} {owner : Owner}
    {diagnostic : Diagnostic} (reported : diagnostic ∈ verdict.diagnostics owner) :
    diagnostic.code = "malformed-signature" ∧ (∃ error, verdict = .malformed error) ∨
      diagnostic.code = "invalid-type-parameters" ∧ ∃ error, verdict = .refused error := by
  cases verdict with
  | absent => cases reported
  | malformed error =>
    obtain rfl := List.mem_singleton.mp reported
    exact Or.inl ⟨rfl, error, rfl⟩
  | refused error =>
    obtain rfl := List.mem_singleton.mp reported
    exact Or.inr ⟨rfl, error, rfl⟩
  | kept signature => cases reported

theorem SignatureTexts.reportedAs_malformed : malformed.ReportedAs ["malformed-signature"] where
  ofClass signature malformed diagnostic reported := by
    obtain ⟨error, verdict⟩ := ClassInfo.verdict_of_malformed signature malformed
    rcases Verdict.code_of_mem_diagnostics reported with ⟨code, -⟩ | ⟨-, refused, other⟩
    · exact List.mem_singleton.mpr code
    · rw [verdict] at other
      cases other
  ofMethod signature malformed diagnostic reported := by
    obtain ⟨error, verdict⟩ := MethodInfo.verdict_of_malformed signature malformed _ _
    rcases Verdict.code_of_mem_diagnostics reported with ⟨code, -⟩ | ⟨-, refused, other⟩
    · exact List.mem_singleton.mpr code
    · rw [verdict] at other
      cases other

theorem SignatureTexts.reportedAs_repeating :
    repeating.ReportedAs ["invalid-type-parameters"] where
  ofClass signature readable diagnostic reported := by
    obtain ⟨kept, parsed, -⟩ := readable
    rcases Verdict.code_of_mem_diagnostics reported with ⟨-, error, verdict⟩ | ⟨code, -⟩
    · exact absurd verdict (ClassInfo.verdict_ne_malformed signature parsed error)
    · exact List.mem_singleton.mpr code
  ofMethod signature readable diagnostic reported := by
    obtain ⟨kept, parsed, -⟩ := readable
    rcases Verdict.code_of_mem_diagnostics reported with ⟨-, error, verdict⟩ | ⟨code, -⟩
    · exact absurd verdict (MethodInfo.verdict_ne_malformed signature parsed _ _ error)
    · exact List.mem_singleton.mpr code

theorem SignatureTexts.reportedAs_all (texts : SignatureTexts) :
    texts.ReportedAs ["malformed-signature", "invalid-type-parameters"] where
  ofClass _ _ diagnostic reported := by
    rcases Verdict.code_of_mem_diagnostics reported with ⟨code, -⟩ | ⟨code, -⟩ <;> simp [code]
  ofMethod _ _ diagnostic reported := by
    rcases Verdict.code_of_mem_diagnostics reported with ⟨code, -⟩ | ⟨code, -⟩ <;> simp [code]

/-- The missing diagnostics tell why the signatures were left out. -/
theorem ClassInfo.Forgets.code_of_forgotten {texts : SignatureTexts} {codes : List String}
    (unusable : texts.Unusable) (reportedAs : texts.ReportedAs codes) {info other : ClassInfo}
    (forgets : info.Forgets texts other) :
    ∀ diagnostic ∈ info.forgotten other, diagnostic.code ∈ codes := by
  intro diagnostic reported
  rcases List.mem_append.mp reported with own | inMethods
  · rcases forgets.signature with same | ⟨-, text, signature, droppable⟩
    · rw [if_pos same] at own
      cases own
    · split at own
      · cases own
      · exact reportedAs.ofClass signature droppable diagnostic own
  · obtain ⟨⟨method, otherMethod⟩, listed, own⟩ := List.mem_flatMap.mp inMethods
    obtain ⟨taken, verdict⟩ := MethodInfo.exists_of_mem_verdictEach (List.of_mem_zip listed).1
    have pair := List.forall₂_zip (forgets.methodVerdicts unusable) listed
    rcases pair.info.signature with same | ⟨-, text, signature, droppable⟩
    · rw [if_pos same] at own
      cases own
    · split at own
      · cases own
      · rw [verdict] at own
        exact reportedAs.ofMethod signature droppable diagnostic own

/-- A declared method and the same method, possibly declared without its signature. -/
structure DeclaredMethod.Forgets (texts : SignatureTexts) (method other : DeclaredMethod) :
    Prop where
  info : method.info.Forgets texts other.info
  signature? : other.generics.signature? = method.generics.signature?
  scope : method.generics.scope.isSome = other.generics.scope.isSome

/-- A declared class and the same class, possibly declared without some signatures. -/
structure DeclaredClass.Forgets (texts : SignatureTexts) (declared other : DeclaredClass) :
    Prop where
  origin : other.origin = declared.origin
  info : declared.info.Forgets texts other.info
  signature? : other.generics.signature? = declared.generics.signature?
  methods : List.Forall₂ (DeclaredMethod.Forgets texts) declared.methods other.methods

theorem DeclaredClass.Forgets.name {texts : SignatureTexts} {declared other : DeclaredClass}
    (forgets : declared.Forgets texts other) : other.name = declared.name :=
  forgets.info.name

section Numbers

variable {texts : SignatureTexts}
variable {verdicts others : List (MethodInfo × Verdict Signature.MethodSignature)}
variable (methods : List.Forall₂ (MethodInfo.ForgetsVerdict texts) verdicts others)
include methods

theorem DeclaredMethod.numberEach_copies (next : ScopeId) :
    List.Forall₂ DeclaredMethod.Copies (numberEach next verdicts) (numberEach next others) := by
  induction methods generalizing next with
  | nil => exact .nil
  | cons head _ ih =>
    rw [numberEach, numberEach, Verdict.isGeneric_congr head.kept?]
    exact .cons ⟨head.info.key, MethodGenerics.ofVerdict_congr head.kept? next⟩ (ih _)

theorem DeclaredMethod.numberEach_forgets (next other : ScopeId) :
    List.Forall₂ (DeclaredMethod.Forgets texts) (numberEach next verdicts)
      (numberEach other others) := by
  induction methods generalizing next other with
  | nil => exact .nil
  | @cons method otherMethod _ _ head _ ih =>
    have generics := MethodGenerics.ofVerdict_congr head.kept? other
    rw [numberEach, numberEach]
    refine .cons ⟨head.info, ?_, ?_⟩ (ih _ _)
    · rw [generics]
      cases method.2 with
      | kept signature =>
        by_cases plain : signature.typeParameters.isEmpty <;>
          simp [MethodGenerics.ofVerdict, MethodGenerics.signature?, plain]
      | _ => rfl
    · rw [generics]
      cases method.2 with
      | kept signature =>
        by_cases plain : signature.typeParameters.isEmpty <;>
          simp [MethodGenerics.ofVerdict, MethodGenerics.scope, plain]
      | _ => rfl

end Numbers

/-- A class without unusable signatures is declared like the class itself, up to the numbers
of the scopes. -/
theorem ClassInfo.Forgets.declaredAt {texts : SignatureTexts} (unusable : texts.Unusable)
    {info other : ClassInfo} (forgets : info.Forgets texts other) (origin : Origin)
    (next otherNext : ScopeId) :
    (info.declaredAt origin next).Forgets texts (other.declaredAt origin otherNext) where
  origin := rfl
  info := forgets
  signature? := by
    rw [ClassInfo.signature?_declaredAt, ClassInfo.signature?_declaredAt, forgets.kept?_eq unusable]
  methods := DeclaredMethod.numberEach_forgets (forgets.methodVerdicts unusable) _ _

/-- A class without malformed signatures is declared exactly like the class itself. -/
theorem ClassInfo.Forgets.copies {info other : ClassInfo} (forgets : info.Forgets .malformed other)
    (origin : Origin) (next : ScopeId) :
    (info.declaredAt origin next).Copies id (other.declaredAt origin next) := by
  have generics : ClassGenerics.ofVerdict next other.verdict = .ofVerdict next info.verdict := by
    rcases forgets.signature with same | ⟨none, text, signature, malformed⟩
    · rw [ClassInfo.verdict_congr forgets.name same]
    · obtain ⟨error, verdict⟩ := ClassInfo.verdict_of_malformed signature malformed
      rw [ClassInfo.verdict_of_none none, verdict]
      rfl
  refine ⟨forgets.name, rfl, forgets.superclass, forgets.interfaces, forgets.enclosing, generics,
    ?_⟩
  simp only [ClassInfo.declaredAt, generics]
  exact DeclaredMethod.numberEach_copies
    (forgets.methodVerdicts SignatureTexts.unusable_malformed) _

end JvmGenerics
