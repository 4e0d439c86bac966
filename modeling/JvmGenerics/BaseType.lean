/-!
# Primitive types of the virtual machine

The eight primitive types, each with the letter that stands for it in
descriptors and signatures and with its keyword in source text.
-/

namespace JvmGenerics

/-- A primitive type of the virtual machine. -/
inductive BaseType
  | byte
  | char
  | double
  | float
  | int
  | long
  | short
  | boolean
deriving DecidableEq

namespace BaseType

/-- Every primitive type, in the order of the letters. -/
def all : List BaseType :=
  [.byte, .char, .double, .float, .int, .long, .short, .boolean]

/-- The letter that stands for the type in a descriptor. -/
def letter : BaseType → Char
  | byte => 'B'
  | char => 'C'
  | double => 'D'
  | float => 'F'
  | int => 'I'
  | long => 'J'
  | short => 'S'
  | boolean => 'Z'

def keyword : BaseType → String
  | byte => "byte"
  | char => "char"
  | double => "double"
  | float => "float"
  | int => "int"
  | long => "long"
  | short => "short"
  | boolean => "boolean"

def ofLetter? (wanted : Char) : Option BaseType :=
  all.find? fun type => type.letter == wanted

def ofKeyword? (wanted : String) : Option BaseType :=
  all.find? fun type => type.keyword == wanted

@[simp] theorem ofLetter?_letter (type : BaseType) : ofLetter? type.letter = some type := by
  cases type <;> rfl

@[simp] theorem ofKeyword?_keyword (type : BaseType) : ofKeyword? type.keyword = some type := by
  cases type <;> rfl

end BaseType

end JvmGenerics
