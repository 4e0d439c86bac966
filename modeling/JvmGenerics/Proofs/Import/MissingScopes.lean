import JvmGenerics.Proofs.Import.Lockstep
import JvmGenerics.Proofs.Import.Renumbering

/-!
# Missing scopes

A class whose type parameters are refused has no scope, while the same class without its
signature has an empty one. So the scopes of two imports in lockstep have other numbers, and
the second import may have some empty scopes more. No name is resolved in an empty scope,
and so every name still means the same.
-/

namespace JvmGenerics

namespace TypeStore

variable {first second : TypeStore}

/-- In two chains every name is resolved to corresponding scopes. -/
def ResolvesLike (first second : TypeStore) (chain other : ScopeChain) : Prop :=
  ∀ name, Option.Rel (first.Corresponds second) (chain.resolve first name)
    (other.resolve second name)

theorem resolvesLike_nil : first.ResolvesLike second [] [] :=
  fun _ => .none

theorem ResolvesLike.append {inner other outer otherOuter : ScopeChain}
    (inside : first.ResolvesLike second inner other)
    (outside : first.ResolvesLike second outer otherOuter) :
    first.ResolvesLike second (inner ++ outer) (other ++ otherOuter) := by
  intro name
  have found := inside name
  rw [ScopeChain.resolve_append, ScopeChain.resolve_append]
  generalize inner.resolve first name = scope, other.resolve second name = otherScope at found
  cases found with
  | none => exact outside name
  | some same => exact .some same

theorem resolvesLike_of_rel {scope other : Option ScopeId}
    (same : Option.Rel (first.Corresponds second) scope other) :
    first.ResolvesLike second scope.toList other.toList :=
  resolve_corresponds (forall₂_toList same)

/-- An empty scope makes no difference. -/
theorem resolvesLike_of_empty {scope : ScopeId} {owner : Owner}
    (empty : second.scope? scope = some ⟨owner, []⟩) :
    first.ResolvesLike second [] [scope] := by
  intro name
  have nothing : ScopeChain.resolve [scope] second name = none := by
    simp [ScopeChain.resolve, empty, Scope.declares, Scope.parameter?]
  rw [nothing]
  exact .none

end TypeStore

/-- The scope of a class in two stores: the scopes correspond to each other, or the class
lacks its signature in the second store and has a scope only there, which is empty. -/
def ClassScope (first second : TypeStore) (info other : ClassInfo)
    (scope otherScope : Option ScopeId) : Prop :=
  Option.Rel (first.Corresponds second) scope otherScope ∨
    other.signature ≠ info.signature ∧ scope = none ∧
      ∃ empty, otherScope = some empty ∧ second.scope? empty = some ⟨.ofClass info.name, []⟩

theorem ClassScope.resolvesLike {first second : TypeStore} {info other : ClassInfo}
    {scope otherScope : Option ScopeId}
    (same : ClassScope first second info other scope otherScope) :
    first.ResolvesLike second scope.toList otherScope.toList := by
  rcases same with same | ⟨-, rfl, empty, rfl, found⟩
  · exact TypeStore.resolvesLike_of_rel same
  · exact TypeStore.resolvesLike_of_empty found

/-- A class in the tables of two imports in lockstep. -/
structure DeclaredClass.Spared (first second : TypeStore) (declared other : DeclaredClass) :
    Prop where
  scope : ClassScope first second declared.info other.info declared.generics.scope
    other.generics.scope
  methods : List.Forall₂ (fun method otherMethod => otherMethod.info.key = method.info.key ∧
    Option.Rel (first.Corresponds second) method.generics.scope otherMethod.generics.scope)
      declared.methods other.methods

/-- A scope that is declared without parameters is empty. -/
theorem TypeStore.empty_of_mem_headers {store : TypeStore} {header : ScopeHeader}
    (listed : header ∈ store.headers) (names : header.names = []) :
    store.scope? header.scope = some ⟨header.owner, []⟩ := by
  obtain ⟨⟨owner, parameters⟩, present, rfl, foundNames⟩ := mem_headers.mp listed
  obtain rfl : parameters = [] := by simpa [Scope.names, names] using foundNames
  exact present

/-- If the signature of a class is left out, the class gets an empty scope, like one that is
malformed, but unlike one whose type parameters are refused. -/
theorem ClassInfo.Forgets.classScope {texts : SignatureTexts} (unusable : texts.Unusable)
    {first second : TypeStore} {info other : ClassInfo} (forgets : info.Forgets texts other)
    {next otherNext : ScopeId}
    (listed : ∀ header ∈ (ClassGenerics.ofVerdict next info.verdict).header? other.name,
      header ∈ first.headers)
    (otherListed : ∀ header ∈ (ClassGenerics.ofVerdict otherNext other.verdict).header? other.name,
      header ∈ second.headers) :
    ClassScope first second info other (ClassGenerics.ofVerdict next info.verdict).scope
      (ClassGenerics.ofVerdict otherNext other.verdict).scope := by
  rcases forgets.signature with same | ⟨none, text, signature, droppable⟩
  · rw [ClassInfo.verdict_congr forgets.name same] at otherListed ⊢
    exact Or.inl (ClassGenerics.rel_scope_ofVerdict other.name listed otherListed)
  have absent := ClassInfo.verdict_of_none none
  rw [absent] at otherListed ⊢
  have otherOwn := otherListed ⟨otherNext, .ofClass other.name, []⟩ rfl
  cases verdict : info.verdict with
  | absent =>
    rw [verdict] at listed
    exact Or.inl (ClassGenerics.rel_scope_ofVerdict other.name listed otherListed)
  | malformed error =>
    rw [verdict] at listed
    have own := listed ⟨next, .ofClass other.name, []⟩ rfl
    exact Or.inl (.some (TypeStore.corresponds_of_mem own otherOwn rfl rfl))
  | refused error =>
    refine Or.inr ⟨?_, rfl, otherNext, rfl, ?_⟩
    · rw [none, signature]
      exact nofun
    · rw [← forgets.name]
      exact TypeStore.empty_of_mem_headers otherOwn rfl
  | kept kept =>
    have kept? := ClassInfo.kept?_of_unusable signature (unusable.ofClass text droppable)
    rw [verdict] at kept?
    cases kept?

section Tables

variable {texts : SignatureTexts} {state later : ImportState} {declared other : DeclaredClass}
variable {reported otherReported : List Diagnostic}
variable (unusable : texts.Unusable) (wellFormed : state.WellFormed reported)
variable (otherWellFormed : later.WellFormed otherReported)
variable (member : declared ∈ state.classes) (otherMember : other ∈ later.classes)
variable (forgets : declared.Forgets texts other)
include unusable wellFormed otherWellFormed member otherMember forgets

theorem DeclaredClass.Forgets.classScope :
    ClassScope state.store later.store declared.info other.info declared.generics.scope
      other.generics.scope := by
  obtain ⟨next, shape⟩ := wellFormed.declared declared member
  obtain ⟨otherNext, otherShape⟩ := otherWellFormed.declared other otherMember
  have generics : declared.generics = .ofVerdict next declared.info.verdict :=
    congrArg DeclaredClass.generics shape
  have otherGenerics : other.generics = .ofVerdict otherNext other.info.verdict :=
    congrArg DeclaredClass.generics otherShape
  have listed (header : ScopeHeader) (own : header ∈ declared.generics.header? declared.name) :
      header ∈ state.store.headers :=
    wellFormed.mem_headers member (List.mem_append_left _ (Option.mem_toList.mpr own))
  have otherListed (header : ScopeHeader) (own : header ∈ other.generics.header? other.name) :
      header ∈ later.store.headers :=
    otherWellFormed.mem_headers otherMember (List.mem_append_left _ (Option.mem_toList.mpr own))
  rw [generics, ← forgets.name] at listed
  rw [otherGenerics] at otherListed
  rw [generics, otherGenerics]
  exact forgets.info.classScope unusable listed otherListed

theorem DeclaredClass.Forgets.spared : declared.Spared state.store later.store other where
  scope := forgets.classScope unusable wellFormed otherWellFormed member otherMember
  methods := by
    refine forall₂_of_forall_mem forgets.methods (fun method own => own) (fun method own => own)
      fun method otherMethod own otherOwn same => ⟨same.info.key, ?_⟩
    have listed (header : ScopeHeader) (isHeader : header ∈ method.header? declared.name) :
        header ∈ state.store.headers :=
      wellFormed.mem_headers member (DeclaredClass.mem_headers_of_method own isHeader)
    have otherListed (header : ScopeHeader)
        (isHeader : header ∈ otherMethod.header? other.name) : header ∈ later.store.headers :=
      otherWellFormed.mem_headers otherMember
        (DeclaredClass.mem_headers_of_method otherOwn isHeader)
    rw [forgets.name] at otherListed
    exact DeclaredMethod.rel_scope same.info.key.symm same.signature?.symm same.scope listed
      otherListed

end Tables

/-- Such a class looks alike to the walk outwards through the classes. -/
theorem DeclaredClass.Spared.outline {texts : SignatureTexts} {first second : TypeStore}
    {declared other : DeclaredClass} (spared : declared.Spared first second other)
    (forgets : declared.Forgets texts other) :
    declared.outline.Alike (first.ResolvesLike second) other.outline where
  name := forgets.name.symm
  enclosing := forgets.info.enclosing.symm
  scope := spared.scope.resolvesLike
  methodScope key := TypeStore.resolvesLike_of_rel <|
    Outline.rel_methodScope? (DeclaredClass.methodScopes_related spared.methods) key

end JvmGenerics
