import JvmGenerics.Types.JavaType

/-!
# Scopes of type parameters

Every class, and every method with type parameters of its own, is the owner of
one scope. A scope is declared with the names of its parameters first, and the
bounds are filled in later, so that bounds may refer to any declared parameter
whatever the order of the declarations.
-/

namespace JvmGenerics

/-- The class or the method that a scope belongs to. -/
inductive Owner
  | ofClass (className : String)
  | ofMethod (className : String) (method : MethodKey)
deriving DecidableEq

namespace Owner

/-- The class itself, or the class that declares the method. -/
def className : Owner → String
  | ofClass className => className
  | ofMethod className _ => className

def text : Owner → String
  | ofClass className => className
  | ofMethod className method => className ++ "." ++ method.name ++ method.descriptor

end Owner

/-- A type parameter. Its bounds are empty only until they are filled in. -/
structure TypeParameter where
  name : String
  bounds : List JavaType
deriving DecidableEq

/-- The type parameters of one owner, in the order of declaration. -/
structure Scope where
  owner : Owner
  parameters : List TypeParameter
deriving DecidableEq

namespace Scope

def parameter? (scope : Scope) (name : String) : Option TypeParameter :=
  scope.parameters.find? fun parameter => parameter.name == name

def declares (scope : Scope) (name : String) : Bool :=
  (scope.parameter? name).isSome

def names (scope : Scope) : List String :=
  scope.parameters.map TypeParameter.name

end Scope

/-- The reasons why a scope cannot be declared. -/
inductive ScopeError
  | alreadyDeclared (owner : Owner)
  | duplicateParameter (owner : Owner) (name : String)
deriving DecidableEq

namespace ScopeError

def owner : ScopeError → Owner
  | alreadyDeclared owner => owner
  | duplicateParameter owner _ => owner

def message : ScopeError → String
  | alreadyDeclared owner => "type parameters of " ++ owner.text ++ " were already declared"
  | duplicateParameter owner name =>
    "type parameter `" ++ name ++ "` is declared twice by " ++ owner.text

end ScopeError

/-- The reasons why bounds cannot be filled in. Each is a defect of the caller. -/
inductive BoundsError
  | unknownScope (scope : ScopeId)
  | noBounds (owner : Owner) (name : String)
  | undeclared (owner : Owner) (name : String)
deriving DecidableEq

/-- What is wrong; there is nothing to say about a scope that does not exist. -/
def BoundsError.message : BoundsError → Option String
  | unknownScope _ => none
  | noBounds owner name =>
    some ("type parameter `" ++ name ++ "` of " ++ owner.text ++ " resolved to an empty bound list")
  | undeclared owner name =>
    some ("type parameter `" ++ name ++ "` is not declared by " ++ owner.text)

/-- The first name that repeats an earlier one, where those in `seen` came before. -/
def firstRepeat (seen : List String) : List String → Option String
  | [] => none
  | name :: rest => if name ∈ seen then some name else firstRepeat (name :: seen) rest

/-- All declared scopes; the number of a scope is its place in this list. -/
structure TypeStore where
  scopes : List Scope
deriving DecidableEq

namespace TypeStore

def empty : TypeStore := ⟨[]⟩

def scope? (store : TypeStore) (scope : ScopeId) : Option Scope :=
  store.scopes[scope]?

def scopeOf? (store : TypeStore) (owner : Owner) : Option ScopeId :=
  store.scopes.findIdx? fun scope => scope.owner == owner

/-- The parameters of a scope; none for a scope that does not exist. -/
def parameters (store : TypeStore) (scope : ScopeId) : List TypeParameter :=
  ((store.scope? scope).map Scope.parameters).getD []

def parameter? (store : TypeStore) (scope : ScopeId) (name : String) : Option TypeParameter :=
  (store.scope? scope).bind fun found => found.parameter? name

/-- The bounds of the parameter that a variable refers to; none for a stub. -/
def boundsOf (store : TypeStore) (reference : TypeVariable) : List JavaType :=
  ((reference.scope.bind fun scope => store.parameter? scope reference.name).map
    TypeParameter.bounds).getD []

/-- Declare the scope of `owner` with parameters that have no bounds yet. An owner
has one scope only, and no two of its parameters share a name. -/
def declare (store : TypeStore) (owner : Owner) (names : List String) :
    Except ScopeError (ScopeId × TypeStore) :=
  if (store.scopeOf? owner).isSome then .error (.alreadyDeclared owner)
  else match firstRepeat [] names with
    | some name => .error (.duplicateParameter owner name)
    | none => .ok (store.scopes.length,
        ⟨store.scopes ++ [⟨owner, names.map fun name => ⟨name, []⟩⟩]⟩)

def define (store : TypeStore) (scope : ScopeId) (name : String) (bounds : List JavaType) :
    Except BoundsError TypeStore :=
  match store.scope? scope with
  | none => .error (.unknownScope scope)
  | some found =>
    if bounds.isEmpty then .error (.noBounds found.owner name)
    else if found.declares name then
      let parameters := found.parameters.map fun parameter =>
        if parameter.name = name then { parameter with bounds := bounds } else parameter
      .ok ⟨store.scopes.set scope { found with parameters := parameters }⟩
    else .error (.undeclared found.owner name)

/-- Fill in the bounds of several parameters of one scope, up to the first refusal. -/
def defineEach (store : TypeStore) (scope : ScopeId) :
    List (String × List JavaType) → TypeStore × Option BoundsError
  | [] => (store, none)
  | (name, bounds) :: rest =>
    match store.define scope name bounds with
    | .error error => (store, some error)
    | .ok next => next.defineEach scope rest

/-- The parameters whose bounds are still to be filled in. -/
def incomplete (store : TypeStore) : List (Owner × String) :=
  store.scopes.flatMap fun scope =>
    (scope.parameters.filter fun parameter => parameter.bounds.isEmpty).map fun parameter =>
      (scope.owner, parameter.name)

end TypeStore

/-- The scopes that are visible from some place, innermost first. -/
abbrev ScopeChain := List ScopeId

/-- The nearest scope of the chain that declares a parameter of the given name. -/
def ScopeChain.resolve (chain : ScopeChain) (store : TypeStore) (name : String) :
    Option ScopeId :=
  chain.find? fun scope => (store.scope? scope).any fun found => found.declares name

end JvmGenerics
