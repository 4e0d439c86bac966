import JvmGenerics.Import.Load

/-!
# Imports

An import declares every class of a batch before it resolves any type, so the
order of the batch does not matter to what a name means. It then resolves the
classes one after the other. Classes that are loaded meanwhile join the end of
the table and are resolved in their turn.
-/

namespace JvmGenerics

/-- The settings of an import. -/
structure ImportOptions where
  /-- Whether classes outside the batch may be loaded from the classpath. -/
  resolveMissingFromClasspath : Bool
deriving DecidableEq

/-- Without further settings, missing classes are loaded. -/
def ImportOptions.standard : ImportOptions := ⟨true⟩

namespace Import

variable (sources : ImportSources)

/-- Resolve the type parameters of a scope, and only then fill in their bounds, so
that bounds may refer to any parameter of the scope. -/
def completeScope (place : Surroundings (StateM ImportState)) (scope : ScopeId)
    (parameters : List Signature.TypeParameter) : Import Unit := do
  let definitions ← place.typeParameters parameters
  modify fun state =>
    let (store, refused) := state.store.defineEach scope definitions
    { state with store := store, defects := state.defects ++ refused.toList }

/-- Resolve the types of a method, by its descriptor if it has no usable signature. -/
def resolveMethod (className : String) (classChain : ScopeChain) (declared : DeclaredMethod) :
    Import ImportedMethod := do
  let scope := declared.generics.scope
  let place := surroundings sources (scope.toList ++ classChain)
  let types ← match declared.generics with
    | .generic scope signature => do
      completeScope place scope signature.typeParameters
      place.methodTypes signature
    | .plain signature => place.methodTypes signature
    | .erased =>
      match MethodDescriptor.parse declared.info.key.descriptor with
      | .ok descriptor => place.erasedMethodTypes descriptor
      | .error error => do
        report (.malformedDescriptor (.ofMethod className declared.info.key) error)
        pure ⟨[], none, []⟩
  return ⟨declared.info, scope, types⟩

/-- Resolve the types of a class and of its methods. -/
def resolveClass (declared : DeclaredClass) : Import ImportedClass := do
  let chain ← lexicalChain sources declared
  let place := surroundings sources chain
  let supertypes ← match declared.generics with
    | .generic scope signature => do
      completeScope place scope signature.typeParameters
      place.supertypes signature
    | .erased _ => place.erasedSupertypes declared.info.superclass declared.info.interfaces
  let methods ← declared.methods.mapM (resolveMethod sources declared.name chain)
  return ⟨declared.info, declared.origin, declared.generics.scope, supertypes, methods⟩

/-- Resolve the classes of the table from a given place on, as long as there are any. -/
def resolveFrom : Nat → Nat → Import (List ImportedClass)
  | 0, _ => return []
  | rounds + 1, next => do
    match (← get).classes[next]? with
    | none => return []
    | some declared =>
      let resolved ← resolveClass sources declared
      return resolved :: (← resolveFrom rounds (next + 1))

/-- Declare a batch, resolve everything that it needs, and say so. -/
def importBatch (batch : List ClassInfo) : Import (List ImportedClass) := do
  batch.forM declareBatchClass
  let batchSize := (← get).classes.length
  let resolved ← resolveFrom sources sources.limit 0
  let state ← get
  log (.finished batchSize (state.classes.length - batchSize) state.diagnostics.length)
  return resolved

end Import

/-- Import a batch of classes. Every declared class comes from the batch or is
found on the classpath under its own name, and no name is declared twice, which
bounds the number of classes. -/
def importClasses (options : ImportOptions) (classpath : Classpath) (batch : List ClassInfo) :
    Imported :=
  let sources : ImportSources :=
    ⟨classpath, options.resolveMissingFromClasspath, batch.length + classpath.names.length⟩
  let (classes, state) := (Import.importBatch sources batch).run ImportState.start
  { classes := classes
    store := state.store
    diagnostics := state.diagnostics
    requests := state.requests
    events := state.events
    defects := state.defects }

end JvmGenerics
