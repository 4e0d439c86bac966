import JvmGenerics.Classpath.Basic
import JvmGenerics.Descriptor
import JvmGenerics.Logging.Level
import JvmGenerics.Signature.Parser
import JvmGenerics.Types.Store

/-!
# Diagnostics and events of an import

An import never fails. What is wrong with a class is reported in a diagnostic,
and the element concerned is imported without its generics. Events tell in
addition what the import does while it goes on.
-/

namespace JvmGenerics

/-- A fault of an imported class. -/
inductive Diagnostic
  | duplicateClass (name : String)
  | malformedSignature (element : Owner) (error : Signature.ParseError)
  | invalidTypeParameters (error : ScopeError)
  | malformedDescriptor (element : Owner) (error : DescriptorError)
deriving DecidableEq

namespace Diagnostic

def code : Diagnostic → String
  | duplicateClass _ => "duplicate-class"
  | malformedSignature _ _ => "malformed-signature"
  | invalidTypeParameters _ => "invalid-type-parameters"
  | malformedDescriptor _ _ => "malformed-descriptor"

def message : Diagnostic → String
  | duplicateClass name => "`" ++ name ++ "` appears twice in the import batch"
  | malformedSignature element error =>
    "malformed generic signature on " ++ element.text ++ ": " ++ error.message
  | invalidTypeParameters error => error.message
  | malformedDescriptor element error =>
    "malformed descriptor on " ++ element.text ++ ": " ++ error.message

def className : Diagnostic → String
  | duplicateClass name => name
  | malformedSignature element _ => element.className
  | invalidTypeParameters error => error.owner.className
  | malformedDescriptor element _ => element.className

def severity (_ : Diagnostic) : String := "warning"

def text (diagnostic : Diagnostic) : String :=
  diagnostic.severity ++ "[" ++ diagnostic.code ++ "] " ++ diagnostic.className ++ ": "
    ++ diagnostic.message

end Diagnostic

/-- A step of an import. -/
inductive Event
  | duplicateClass (name : String)
  | malformedSignature (element : Owner) (error : Signature.ParseError)
  | typeParametersIgnored (error : ScopeError)
  | enclosingLoop (className : String)
  | enclosingMissing (className enclosing : String)
  | loaded (className : String)
  | differentClass (className found : String)
  | notFound (className : String)
  | unreadable (className : String) (error : ClasspathError)
  | unresolvedReference (className : String)
  | stubVariable (name : String)
  | finished (batch fromClasspath diagnostics : Nat)
deriving DecidableEq

namespace Event

/-- The value of a field of an event. -/
inductive FieldValue
  | text (value : String)
  | count (value : Nat)
deriving DecidableEq

def level : Event → LogLevel
  | duplicateClass _ => .warn
  | malformedSignature _ _ => .warn
  | typeParametersIgnored _ => .warn
  | enclosingLoop _ => .warn
  | enclosingMissing _ _ => .debug
  | loaded _ => .debug
  | differentClass _ _ => .warn
  | notFound _ => .debug
  | unreadable _ _ => .warn
  | unresolvedReference _ => .debug
  | stubVariable _ => .debug
  | finished _ _ _ => .debug

/-- What the event is about: a question to the classpath, or the import itself. -/
def target : Event → String
  | loaded _ => "archsig.classpath"
  | differentClass _ _ => "archsig.classpath"
  | notFound _ => "archsig.classpath"
  | unreadable _ _ => "archsig.classpath"
  | _ => "archsig.import"

def message : Event → String
  | duplicateClass _ => "class appears twice in the import batch; keeping the first"
  | malformedSignature element _ =>
    "malformed generic signature; treating " ++ element.text ++ " as non-generic"
  | typeParametersIgnored _ => "ignoring type parameters"
  | enclosingLoop _ => "enclosing class chain loops back on itself"
  | enclosingMissing _ _ => "enclosing class not available; scope chain ends here"
  | loaded _ => "loaded class from classpath"
  | differentClass _ _ => "classpath returned a different class"
  | notFound _ => "class not found on classpath"
  | unreadable _ _ => "ignoring unreadable classpath entry"
  | unresolvedReference _ => "unresolved class reference"
  | stubVariable _ => "no enclosing scope declares type variable; using a stub"
  | finished _ _ _ => "imported class batch"

def fields : Event → List (String × FieldValue)
  | duplicateClass name => [("class", .text name)]
  | malformedSignature element error =>
    [("class", .text element.className), ("error", .text error.message)]
  | typeParametersIgnored error =>
    [("owner", .text error.owner.text), ("error", .text error.message)]
  | enclosingLoop className => [("class", .text className)]
  | enclosingMissing className enclosing =>
    [("class", .text className), ("enclosing", .text enclosing)]
  | loaded className => [("class", .text className)]
  | differentClass className found => [("class", .text className), ("found", .text found)]
  | notFound className => [("class", .text className)]
  | unreadable className error => [("class", .text className), ("error", .text error.message)]
  | unresolvedReference className => [("class", .text className)]
  | stubVariable name => [("variable", .text name)]
  | finished batch fromClasspath diagnostics =>
    [("batch", .count batch), ("from_classpath", .count fromClasspath),
      ("diagnostics", .count diagnostics)]

end Event

end JvmGenerics
