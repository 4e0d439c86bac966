import JvmGenerics.Import.Declare

/-!
# Loading classes on demand

A class that is not declared yet is asked for once, if loading is allowed, and
declared as soon as it is found. The lexical chain of a class is what makes its
enclosing classes needed; every class reference in its types makes another one
needed.
-/

namespace JvmGenerics.Import

variable (sources : ImportSources)

def requestClass (name : String) : Import (Option DeclaredClass) := do
  modify fun state => { state with requests := state.requests ++ [name] }
  match sources.classpath.read name with
  | .error error =>
    log (.unreadable name error)
    log (.notFound name)
    return none
  | .ok none =>
    log (.notFound name)
    return none
  | .ok (some info) =>
    if info.name = name then
      log (.loaded name)
      return some (← declareClass .classpath info)
    else
      log (.differentClass name info.name)
      return none

/-- The class of a given name, which is loaded if need be. -/
def ensureClass (name : String) : Import (Option DeclaredClass) := do
  let state ← get
  match state.class? name with
  | some declared => return some declared
  | none =>
    if sources.fallback && !state.requests.contains name then requestClass sources name
    else return none

/-- The scopes visible inside a class, innermost first. After the scope of the
class itself come, level by level outwards, the scope of the method around it and
what is visible inside the class around it. A static class sees nothing of its
outer class, and the walk also ends where that class is missing or was met
before. -/
def chainFrom : Nat → List String → DeclaredClass → Import ScopeChain
  | 0, _, _ => return []
  | rounds + 1, visited, declared => do
    if visited.contains declared.name then
      log (.enclosingLoop declared.name)
      return []
    let own := declared.generics.scope.toList
    match declared.info.enclosing with
    | none => return own
    | some place =>
      if place.isStatic then return own
      match ← ensureClass sources place.className with
      | none =>
        log (.enclosingMissing declared.name place.className)
        return own
      | some outer =>
        let store := (← get).store
        let around := place.method.bind fun method =>
          store.scopeOf? (.ofMethod place.className method)
        let outwards ← chainFrom rounds (declared.name :: visited) outer
        return own ++ around.toList ++ outwards

/-- The lexical chain of a class. The walk meets no class twice, so it ends within
one round more than there can be classes. -/
def lexicalChain (declared : DeclaredClass) : Import ScopeChain :=
  chainFrom sources (sources.limit + 1) [] declared

/-- The surroundings of a place with a given chain, where classes are loaded when
they are referred to. -/
def surroundings (chain : ScopeChain) : Surroundings (StateM ImportState) where
  originOf name := do
    match ← ensureClass sources name with
    | some declared => return declared.origin
    | none =>
      log (.unresolvedReference name)
      return .unresolved
  declaringScope name := do
    match chain.resolve (← get).store name with
    | some scope => return some scope
    | none =>
      log (.stubVariable name)
      return none

end JvmGenerics.Import
