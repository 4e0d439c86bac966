import JvmGenerics.Proofs.Import.Origins
import JvmGenerics.Proofs.Import.Renumbering
import JvmGenerics.Proofs.Import.Scoping
import JvmGenerics.Proofs.Types.SameText

/-!
# Loading only refines

The classes of a batch keep their types if further classes may be loaded. All that these
can add is where an unresolved class comes from, and a declaration further out for a
variable that would else be a stub. Neither shows in the texts of the types.
-/

namespace JvmGenerics

/-- What may become of an origin if more classes are known: a class that was unresolved may
be found on the classpath. -/
inductive Origin.Refines : Origin → Origin → Prop
  | kept {origin : Origin} : Refines origin origin
  | loaded : Refines .unresolved .classpath

/-- What may become of the scope of a variable if more classes are known: a scope stays the
same, with the same owner, and a stub may get a scope that declares the name. -/
inductive Imported.ScopeRefines (first second : Imported) (name : String) :
    Option ScopeId → Option ScopeId → Prop
  | kept {scope : ScopeId} : first.store.Corresponds second.store scope scope →
      ScopeRefines first second name (some scope) (some scope)
  | stub : ScopeRefines first second name none none
  | declared {scope : ScopeId} : second.store.Declares scope name →
      ScopeRefines first second name none (some scope)

/-- Types that have the same texts. -/
structure JavaType.SameText (first second : JavaType) : Prop where
  display : second.display = first.display
  name : second.name = first.name
  signature : second.signature = first.signature

/-- A class in two results, of which the second one knows more classes. -/
structure Imported.RefinedClass (first second : Imported) (published other : ImportedClass) :
    Prop where
  info : other.info = published.info
  origin : other.origin = published.origin
  scope : other.scope = published.scope
  alike : first.AlikeClass (fun _ => Origin.Refines) (first.ScopeRefines second) second
    published other
  methods : List.Forall₂ (fun method otherMethod => otherMethod.info = method.info ∧
    otherMethod.scope = method.scope) published.methods other.methods
  texts : List.Forall₂ JavaType.SameText (published.allTypes first) (other.allTypes second)

theorem Origin.Refines.primitive_iff {origin other : Origin} (refines : origin.Refines other) :
    other = .primitive ↔ origin = .primitive := by
  cases refines with
  | kept => rfl
  | loaded => decide

theorem JavaType.Alike.sameText {scopes : String → Option ScopeId → Option ScopeId → Prop}
    {first second : JavaType} (alike : first.Alike (fun _ => Origin.Refines) scopes second) :
    first.SameText second where
  display := Alike.display_eq first second alike
  name := Alike.name_eq first second alike
  signature := Alike.signature_eq Origin.Refines.primitive_iff first second alike

/-- Resolution in a longer chain of a larger store finds the same scope, or one of the
further ones where there was none. -/
theorem Imported.scopeRefines_resolve {first second : Imported}
    (grown : first.store.headers <+: second.store.headers) {chain longer : ScopeChain}
    (visible : ∀ scope ∈ chain, scope < first.store.scopes.length) (further : chain <+: longer)
    (name : String) :
    first.ScopeRefines second name (chain.resolve first.store name)
      (longer.resolve second.store name) := by
  obtain ⟨rest, rfl⟩ := further
  rw [ScopeChain.resolve_append, ScopeChain.resolve_eq_of_prefix grown visible]
  cases found : chain.resolve first.store name with
  | some scope =>
    obtain ⟨declaring, present, -⟩ := TypeStore.declares_of_resolve found
    have listed : (⟨scope, declaring.owner, declaring.names⟩ : ScopeHeader) ∈
        first.store.headers := TypeStore.mem_headers.mpr ⟨declaring, present, rfl, rfl⟩
    exact .kept (TypeStore.corresponds_of_mem listed (grown.subset listed) rfl rfl)
  | none =>
    rw [Option.none_or]
    cases other : ScopeChain.resolve rest second.store name with
    | none => exact .stub
    | some scope => exact .declared (TypeStore.declares_of_resolve other)

namespace Imported.Outcome

section Pair

variable {sources others : ImportSources} {batch : List ClassInfo} {first second : Imported}
variable {state later : ImportState}
variable (outcome : first.Outcome sources batch state)
variable (otherOutcome : second.Outcome others batch later)
variable (forbidden : sources.fallback = false)
include outcome otherOutcome forbidden

theorem classes_isPrefix : state.classes <+: later.classes := by
  obtain ⟨loaded, split, -⟩ := otherOutcome.exists_loaded
  rw [outcome.classes_eq_of_forbidden forbidden, split]
  exact List.prefix_append _ _

theorem headers_isPrefix : first.store.headers <+: second.store.headers := by
  obtain ⟨loaded, split⟩ := outcome.classes_isPrefix otherOutcome forbidden
  rw [outcome.store, otherOutcome.store, outcome.sound.layout, otherOutcome.sound.layout, ← split,
    List.flatMap_append]
  exact List.prefix_append _ _

theorem class?_included {name : String} {declared : DeclaredClass}
    (present : state.class? name = some declared) : later.class? name = some declared :=
  (outcome.classes_isPrefix otherOutcome forbidden).find?_eq_some present

theorem originOf_refines (name : String) :
    (first.originOf name).Refines (second.originOf name) := by
  rw [outcome.originOf_eq_class?, otherOutcome.originOf_eq_class?]
  cases present : state.class? name with
  | some declared =>
    rw [outcome.class?_included otherOutcome forbidden present]
    exact .kept
  | none =>
    cases loaded : later.class? name with
    | none => exact .kept
    | some declared =>
      obtain ⟨member, rfl⟩ := ImportState.mem_of_class? loaded
      have means := otherOutcome.sound.known declared member
      rcases ImportSources.origin_of_classNamed? means with isBatch | isClasspath
      · rw [isBatch] at means
        obtain ⟨inBatch, named⟩ := ImportSources.mem_of_classNamed? means
        exact absurd named (outcome.sound.ne_of_class?_eq_none present _ inBatch)
      · rw [Option.map_some, Option.getD_some, isClasspath]
        exact .loaded

theorem alikeIn_of_isPrefix {chain longer : ScopeChain}
    (visible : ∀ scope ∈ chain, scope < state.store.scopes.length) (further : chain <+: longer) :
    AlikeIn (fun _ => Origin.Refines) (first.ScopeRefines second) first second chain longer where
  origin := outcome.originOf_refines otherOutcome forbidden
  scope := scopeRefines_resolve (outcome.headers_isPrefix otherOutcome forbidden)
    (by rwa [outcome.store]) further

/-- The chain of a class only becomes longer. -/
theorem chain_isPrefix {declared : DeclaredClass} {published other : ImportedClass}
    {chain longer : ScopeChain}
    (resolved : state.Resolved sources batch chain declared published)
    (otherResolved : later.Resolved others batch longer declared other) : chain <+: longer := by
  refine LexicalChain.isPrefix (fun {name outline} present => ?_)
    (outcome.lexical resolved) (otherOutcome.lexical otherResolved)
  obtain ⟨found, listed, rfl⟩ := Option.map_eq_some_iff.mp present
  rw [ImportState.outline?, outcome.class?_included otherOutcome forbidden listed]
  rfl

theorem refinedClass {declared : DeclaredClass} (member : declared ∈ state.classes)
    {published other : ImportedClass} {chain longer : ScopeChain}
    (resolved : state.Resolved sources batch chain declared published)
    (otherResolved : later.Resolved others batch longer declared other) :
    first.RefinedClass second published other := by
  have otherMember := (outcome.classes_isPrefix otherOutcome forbidden).subset member
  have further := outcome.chain_isPrefix otherOutcome forbidden resolved otherResolved
  have pair : ClassPair (fun _ => Origin.Refines) (first.ScopeRefines second) first second
      chain longer declared declared := by
    refine ⟨rfl, rfl, rfl,
      outcome.alikeIn_of_isPrefix otherOutcome forbidden resolved.visible further,
      List.forall₂_same.mpr fun method own => ⟨rfl, rfl, ?_⟩⟩
    exact outcome.alikeIn_of_isPrefix otherOutcome forbidden
      (outcome.sound.visible_method member own resolved.visible)
      ((List.prefix_append_right_inj _).mpr further)
  have alike := outcome.alikeClass (fun _ => Origin.Refines.kept) otherOutcome member otherMember
    resolved otherResolved pair
  refine ⟨?_, ?_, ?_, alike, ?_, alike.allTypes.imp fun _ _ types => types.sameText⟩
  · rw [resolved.value, otherResolved.value]
    rfl
  · rw [resolved.value, otherResolved.value]
    rfl
  · rw [resolved.value, otherResolved.value]
    rfl
  · rw [resolved.value, otherResolved.value]
    exact forall₂_map_iff.mpr (List.forall₂_same.mpr fun method own => ⟨rfl, rfl⟩)

theorem refinedClasses : List.Forall₂ (first.RefinedClass second) first.classes
    (second.classes.filter fun published => published.origin == .imported) := by
  have same : List.Forall₂ Eq state.classes state.classes := List.forall₂_same.mpr fun _ _ => rfl
  have otherListed := List.rel_filter
    (p := fun declared : DeclaredClass => declared.origin == .imported)
    (q := fun published : ImportedClass => published.origin == .imported)
    (fun declared published resolved => ?_) otherOutcome.resolved
  · rw [otherOutcome.filter_imported, ← outcome.classes_eq_of_forbidden forbidden] at otherListed
    refine (forall₂_through same outcome.resolved_mem otherListed).imp fun published other found => ?_
    obtain ⟨declared, _, rfl, ⟨member, chain, resolved⟩, longer, otherResolved⟩ := found
    exact outcome.refinedClass otherOutcome forbidden member resolved otherResolved
  · obtain ⟨chain, resolved⟩ := resolved
    rw [resolved.value]
    rfl

end Pair

end Imported.Outcome

/-- If further classes may be loaded, the classes of a batch still come in the same order,
with the same parameter names. Their types change only where a class that was unresolved is
found on the classpath, or where a stub finds a declaration of its name; every other
variable keeps its scope. No text of a type changes. -/
theorem loading_refines (classpath : Classpath) (batch : List ClassInfo) :
    let first := importClasses ⟨false⟩ classpath batch
    let second := importClasses ⟨true⟩ classpath batch
    first.classes.map ImportedClass.info = ClassInfo.firsts [] batch ∧
      List.Forall₂ (first.RefinedClass second) first.classes
        (second.classes.filter fun published => published.origin == .imported) := by
  intro first second
  obtain ⟨state, outcome⟩ := importClasses_outcome ⟨false⟩ classpath batch
  obtain ⟨later, otherOutcome⟩ := importClasses_outcome ⟨true⟩ classpath batch
  have ⟨_, infos⟩ := ImportState.ofBatch_spec (ImportOptions.sources ⟨false⟩ classpath batch) batch
  constructor
  · rw [outcome.infos_eq, outcome.classes_eq_of_forbidden rfl, infos]
  · exact outcome.refinedClasses otherOutcome rfl

set_option maxRecDepth 20000 in
/-- `class Base.Inner extends List<S>` finds the `S` of `Base` once that class is loaded. -/
example :
    let inner : ClassInfo :=
      ⟨"Base$Inner", some "LList<TS;>;", none, [], some ⟨"Base", none, false⟩, []⟩
    let superclass (loading : Bool) :=
      ((importClasses ⟨loading⟩ (.ofClasses [.base]) [inner]).classes.map
        fun published => published.supertypes.superclass).head?
    superclass false = some (some (.parameterized ⟨"List", 0, .unresolved⟩
        [.typeVariable ⟨"S", none⟩])) ∧
      superclass true = some (some (.parameterized ⟨"List", 0, .unresolved⟩
        [.typeVariable ⟨"S", some 1⟩])) := by
  decide +kernel

end JvmGenerics
