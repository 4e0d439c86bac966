import JvmGenerics.Import.State

/-!
# Declaring classes

A class is declared by reading its signatures and declaring the scopes of their
type parameters; no class is looked up for that. A signature that cannot be read
is dropped, and so is one whose type parameters are refused.
-/

namespace JvmGenerics.Import

open Signature (ParseError)

/-- Declare a scope, unless the store refuses it. -/
def declareScope (owner : Owner) (parameters : List Signature.TypeParameter) :
    Import (Option ScopeId) := do
  let state ← get
  match state.store.declare owner (parameters.map Signature.TypeParameter.name) with
  | .ok (scope, store) =>
    set { state with store := store }
    return some scope
  | .error error =>
    log (.typeParametersIgnored error)
    report (.invalidTypeParameters error)
    return none

def dropSignature (element : Owner) (error : ParseError) : Import Unit := do
  log (.malformedSignature element error)
  report (.malformedSignature element error)

/-- Declare the scope of a class. A class without a usable signature has a scope
without parameters. -/
def declareClassScope (info : ClassInfo) : Import ClassGenerics := do
  let owner := Owner.ofClass info.name
  match info.signature.map Signature.parseClass with
  | none => return .erased (← declareScope owner [])
  | some (.error error) =>
    dropSignature owner error
    return .erased (← declareScope owner [])
  | some (.ok signature) =>
    match ← declareScope owner signature.typeParameters with
    | some scope => return .generic scope signature
    | none => return .erased none

/-- Declare the scope of a method, if it has type parameters. -/
def declareMethod (className : String) (info : MethodInfo) : Import DeclaredMethod := do
  let owner := Owner.ofMethod className info.key
  match info.signature.map Signature.parseMethod with
  | none => return ⟨info, .erased⟩
  | some (.error error) =>
    dropSignature owner error
    return ⟨info, .erased⟩
  | some (.ok signature) =>
    if signature.typeParameters.isEmpty then return ⟨info, .plain signature⟩
    match ← declareScope owner signature.typeParameters with
    | some scope => return ⟨info, .generic scope signature⟩
    | none => return ⟨info, .erased⟩

def declareClass (origin : Origin) (info : ClassInfo) : Import DeclaredClass := do
  let generics ← declareClassScope info
  let methods ← info.methods.mapM (declareMethod info.name)
  let declared : DeclaredClass := ⟨info, origin, generics, methods⟩
  modify fun state => { state with classes := state.classes ++ [declared] }
  return declared

/-- Declare a class of the batch. Only the first class of a name counts. -/
def declareBatchClass (info : ClassInfo) : Import Unit := do
  match (← get).class? info.name with
  | some _ =>
    log (.duplicateClass info.name)
    report (.duplicateClass info.name)
  | none => let _ ← declareClass .imported info

end JvmGenerics.Import
