/-!
# Names of classes and methods

The virtual machine writes the package separator of a class name as a slash, as
in `java/util/Map$Entry`; everything about loaded classes writes a point. A
method is named within its class by its name together with its descriptor.
-/

namespace JvmGenerics

/-- The binary name of a class with a given internal name. -/
def binaryOfInternal (internalName : String) : String :=
  String.ofList (internalName.toList.map fun c => if c = '/' then '.' else c)

/-- The internal name of a class with a given binary name. -/
def internalOfBinary (binaryName : String) : String :=
  String.ofList (binaryName.toList.map fun c => if c = '.' then '/' else c)

/-- A method within its class. -/
structure MethodKey where
  name : String
  descriptor : String
deriving DecidableEq

end JvmGenerics
