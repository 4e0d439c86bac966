import JvmGenerics.Import.Model

/-!
# The state of an import

While an import goes on, the table of declared classes only grows, and so does
the store of their scopes. A class that was asked for and is not in the table
was not found, and it is never asked for again.
-/

namespace JvmGenerics

/-- What remains of the signature of a class. -/
inductive ClassGenerics
  /-- No usable signature. The scope has no parameters, and it is missing if
  declared parameters were refused. -/
  | erased (scope : Option ScopeId)
  | generic (scope : ScopeId) (signature : Signature.ClassSignature)

/-- What remains of the signature of a method. -/
inductive MethodGenerics
  | erased
  /-- A signature without type parameters needs no scope. -/
  | plain (signature : Signature.MethodSignature)
  | generic (scope : ScopeId) (signature : Signature.MethodSignature)

def ClassGenerics.scope : ClassGenerics → Option ScopeId
  | erased scope => scope
  | generic scope _ => some scope

def MethodGenerics.scope : MethodGenerics → Option ScopeId
  | generic scope _ => some scope
  | _ => none

structure DeclaredMethod where
  info : MethodInfo
  generics : MethodGenerics

/-- A class whose scopes are declared and whose types may still be unresolved. -/
structure DeclaredClass where
  info : ClassInfo
  origin : Origin
  generics : ClassGenerics
  methods : List DeclaredMethod

def DeclaredClass.name (declared : DeclaredClass) : String :=
  declared.info.name

/-- What an import can draw on. `limit` bounds the number of classes that it can
come to declare. -/
structure ImportSources where
  classpath : Classpath
  /-- Whether classes outside the batch may be loaded. -/
  fallback : Bool
  limit : Nat

structure ImportState where
  classes : List DeclaredClass
  store : TypeStore
  diagnostics : List Diagnostic
  requests : List String
  events : List Event
  defects : List BoundsError

namespace ImportState

def start : ImportState where
  classes := []
  store := TypeStore.empty
  diagnostics := []
  requests := []
  events := []
  defects := []

def class? (state : ImportState) (name : String) : Option DeclaredClass :=
  state.classes.find? fun declared => declared.name == name

end ImportState

abbrev Import (α : Type) := StateM ImportState α

namespace Import

def log (event : Event) : Import Unit :=
  modify fun state => { state with events := state.events ++ [event] }

def report (diagnostic : Diagnostic) : Import Unit :=
  modify fun state => { state with diagnostics := state.diagnostics ++ [diagnostic] }

end Import

end JvmGenerics
