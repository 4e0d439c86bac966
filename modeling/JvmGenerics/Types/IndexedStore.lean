import JvmGenerics.Types.Store

/-!
# Scopes with an index of their owners

Here the scopes are kept by number, and beside them the number of every owner's scope, so that
an owner is found without a search. A call changes the store in steps and may be refused between
them; whatever has been changed by then stays changed.
-/

namespace JvmGenerics

/-- The scopes by number, and the numbers by owner. -/
structure IndexedStore where
  scopes : List Scope
  numbers : List (Owner × ScopeId)

namespace IndexedStore

def empty : IndexedStore := ⟨[], []⟩

/-- The scopes without the index. -/
def toStore (store : IndexedStore) : TypeStore := ⟨store.scopes⟩

def scopeOf? (store : IndexedStore) (owner : Owner) : Option ScopeId :=
  store.numbers.lookup owner

/-- Add parameters without bounds to those in `built`, one for each name, up to the first name
that is already taken. -/
def placeholders (owner : Owner) (built : List TypeParameter) :
    List String → Except ScopeError (List TypeParameter)
  | [] => .ok built
  | name :: rest =>
    if built.any fun parameter => parameter.name == name then
      .error (.duplicateParameter owner name)
    else placeholders owner (built ++ [⟨name, []⟩]) rest

def declare (owner : Owner) (names : List String) :
    ExceptT ScopeError (StateM IndexedStore) ScopeId := do
  if ((← get).scopeOf? owner).isSome then throw (.alreadyDeclared owner)
  let parameters ← MonadExcept.ofExcept (placeholders owner [] names)
  let scope := (← get).scopes.length
  modify fun store => { store with scopes := store.scopes ++ [⟨owner, parameters⟩] }
  modify fun store => { store with numbers := (owner, scope) :: store.numbers }
  return scope

/-- Fill in the bounds of the first parameter of the given name. -/
def define (scope : ScopeId) (name : String) (bounds : List JavaType) :
    ExceptT BoundsError (StateM IndexedStore) Unit := do
  let some found := (← get).scopes[scope]? | throw (.unknownScope scope)
  if bounds.isEmpty then throw (.noBounds found.owner name)
  let some place := found.parameters.findIdx? fun parameter => parameter.name == name
    | throw (.undeclared found.owner name)
  let parameters := found.parameters.modify place fun parameter =>
    { parameter with bounds := bounds }
  modify fun store =>
    { store with scopes := store.scopes.set scope { found with parameters := parameters } }

end IndexedStore

/-- A call that may change a store. -/
inductive StoreCall
  | declare (owner : Owner) (names : List String)
  | define (scope : ScopeId) (name : String) (bounds : List JavaType)

/-- What a call comes to. -/
inductive StoreAnswer
  | declared (scope : ScopeId)
  | refused (error : ScopeError)
  | defined
  | defect (error : BoundsError)
deriving DecidableEq

def StoreCall.perform : StoreCall → StateM IndexedStore StoreAnswer
  | declare owner names => do
    match ← (IndexedStore.declare owner names).run with
    | .ok scope => return .declared scope
    | .error error => return .refused error
  | define scope name bounds => do
    match ← (IndexedStore.define scope name bounds).run with
    | .ok () => return .defined
    | .error error => return .defect error

end JvmGenerics
