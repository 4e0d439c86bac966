import JvmGenerics.ClassFile.ConstantPool

/-!
# Class files

What a class file says about generics: the names of the class and its
supertypes, its fields and methods, and the attributes that hold signatures and
the place of the class within other classes. Everything else is skipped.
Class names are internal names.
-/

namespace JvmGenerics

namespace ClassFile

/-- A field or a method. -/
structure Member where
  accessFlags : UInt16
  name : String
  descriptor : String
  signature : Option String
deriving DecidableEq

/-- A statement about one nested class, which may be this class or another. -/
structure InnerClass where
  innerClass : String
  outerClass : Option String
  innerName : Option String
  accessFlags : UInt16
deriving DecidableEq

/-- The class around a local or anonymous class, and the method if it stands in one. -/
structure EnclosingMethod where
  className : String
  method : Option MethodKey
deriving DecidableEq

/-- An attribute that matters for generics. -/
inductive Attribute
  | signature (text : String)
  | innerClasses (entries : List InnerClass)
  | enclosingMethod (place : EnclosingMethod)
  | unrecognised
deriving DecidableEq

end ClassFile

open ClassFile in
/-- The contents of a class file. -/
structure ClassFile where
  minorVersion : UInt16
  majorVersion : UInt16
  accessFlags : UInt16
  thisClass : String
  superclass : Option String
  interfaces : List String
  fields : List Member
  methods : List Member
  signature : Option String
  innerClasses : List InnerClass
  enclosingMethod : Option EnclosingMethod
deriving DecidableEq

namespace ClassFile

/-- The class around this one: that of the enclosing method, or else the outer
class in the first statement about this class. -/
def enclosingClass (file : ClassFile) : Option String :=
  match file.enclosingMethod with
  | some place => some place.className
  | none =>
    (file.innerClasses.find? fun entry => entry.innerClass == file.thisClass).bind
      InnerClass.outerClass

def findMethod? (file : ClassFile) (name descriptor : String) : Option Member :=
  file.methods.find? fun method => method.name == name && method.descriptor == descriptor

def lastSignature (attributes : List Attribute) : Option String :=
  (attributes.filterMap fun
    | .signature text => some text
    | _ => none).getLast?

def allInnerClasses (attributes : List Attribute) : List InnerClass :=
  attributes.flatMap fun
    | .innerClasses entries => entries
    | _ => []

def lastEnclosingMethod (attributes : List Attribute) : Option EnclosingMethod :=
  (attributes.filterMap fun
    | .enclosingMethod place => some place
    | _ => none).getLast?

end ClassFile

end JvmGenerics
