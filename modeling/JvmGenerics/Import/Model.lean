import JvmGenerics.ClassInfo
import JvmGenerics.Import.Report
import JvmGenerics.Types.Resolution

/-!
# Imported classes

The result of an import: classes with resolved types, and the store that holds
the bounds of their type parameters.
-/

namespace JvmGenerics

/-- A method with its resolved types. It has a scope if it declares type parameters. -/
structure ImportedMethod where
  info : MethodInfo
  scope : Option ScopeId
  types : MethodTypes
deriving DecidableEq

/-- A class with its resolved types. It has a scope unless its type parameters
were refused. -/
structure ImportedClass where
  info : ClassInfo
  origin : Origin
  scope : Option ScopeId
  supertypes : Supertypes
  methods : List ImportedMethod
deriving DecidableEq

namespace ImportedClass

def name (imported : ImportedClass) : String :=
  imported.info.name

def isFromClasspath (imported : ImportedClass) : Bool :=
  imported.origin == .classpath

def method? (imported : ImportedClass) (key : MethodKey) : Option ImportedMethod :=
  imported.methods.find? fun method => method.info.key == key

end ImportedClass

/-- The outcome of an import. `requests` holds every name that the classpath was
asked for, and `defects` every bound that the store refused. -/
structure Imported where
  classes : List ImportedClass
  store : TypeStore
  diagnostics : List Diagnostic
  requests : List String
  events : List Event
  defects : List BoundsError
deriving DecidableEq

namespace Imported

def class? (imported : Imported) (name : String) : Option ImportedClass :=
  imported.classes.find? fun found => found.name == name

def contains (imported : Imported) (name : String) : Bool :=
  (imported.class? name).isSome

/-- The data of the class of a given name. -/
def info? (imported : Imported) (name : String) : Option ClassInfo :=
  (imported.class? name).map ImportedClass.info

/-- The type parameters of a scope, if there is one. -/
def parameters (imported : Imported) (scope : Option ScopeId) : List TypeParameter :=
  scope.elim [] imported.store.parameters

def place (imported : Imported) (chain : ScopeChain) : Surroundings Id :=
  .ofPool imported.contains imported.store chain

end Imported

end JvmGenerics
