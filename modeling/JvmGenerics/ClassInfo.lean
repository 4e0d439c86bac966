import JvmGenerics.ClassFile.Basic

/-!
# Classes to import

What an import needs to know of one class: its raw signatures, its erased
supertypes, and the class around it. All class names are binary names.
-/

namespace JvmGenerics

/-- The lexical place of a nested, local or anonymous class. -/
structure Enclosing where
  className : String
  /-- The method around a local or anonymous class. -/
  method : Option MethodKey
  /-- A static member class does not see the type parameters around it. -/
  isStatic : Bool
deriving DecidableEq

/-- A method before its types are resolved. -/
structure MethodInfo where
  key : MethodKey
  signature : Option String
deriving DecidableEq

/-- A class before its types are resolved. -/
structure ClassInfo where
  name : String
  signature : Option String
  /-- The erased supertypes stand in where there is no usable signature. -/
  superclass : Option String
  interfaces : List String
  enclosing : Option Enclosing
  methods : List MethodInfo
deriving DecidableEq

namespace ClassInfo

def staticFlag : UInt16 := 0x0008

/-- Whether some statement about the class of a file calls it static. -/
def isStaticMember (file : ClassFile) : Bool :=
  file.innerClasses.any fun entry =>
    entry.innerClass == file.thisClass && entry.accessFlags &&& staticFlag != 0

def enclosingOf (file : ClassFile) : Option Enclosing :=
  match file.enclosingMethod with
  | some place => some ⟨binaryOfInternal place.className, place.method, false⟩
  | none => file.enclosingClass.map fun outer =>
      ⟨binaryOfInternal outer, none, isStaticMember file⟩

def ofClassFile (file : ClassFile) : ClassInfo where
  name := binaryOfInternal file.thisClass
  signature := file.signature
  superclass := file.superclass.map binaryOfInternal
  interfaces := file.interfaces.map binaryOfInternal
  enclosing := enclosingOf file
  methods := file.methods.map fun method => ⟨⟨method.name, method.descriptor⟩, method.signature⟩

end ClassInfo

end JvmGenerics
