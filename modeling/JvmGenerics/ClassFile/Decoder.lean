/-!
# Reading bytes from their front

The numbers of a class file are unsigned and have their most significant byte
first. A decoder consumes a beginning of the bytes it is given, or fails.
-/

namespace JvmGenerics.ClassFile

/-- The kind of a constant. -/
inductive ConstantKind
  | utf8
  | integer
  | float
  | long
  | double
  | classInfo
  | string
  | memberRef
  | nameAndType
  | methodHandle
  | methodType
  | dynamic
  | moduleInfo
  | packageInfo
deriving DecidableEq

def ConstantKind.text : ConstantKind → String
  | utf8 => "Utf8"
  | integer => "Integer"
  | float => "Float"
  | long => "Long"
  | double => "Double"
  | classInfo => "Class"
  | string => "String"
  | memberRef => "MemberRef"
  | nameAndType => "NameAndType"
  | methodHandle => "MethodHandle"
  | methodType => "MethodType"
  | dynamic => "Dynamic"
  | moduleInfo => "Module"
  | packageInfo => "Package"

/-- The reasons why bytes are no class file. -/
inductive DecodeError
  | unexpectedEnd
  | trailingBytes
  | badMagic (found : UInt32)
  | badIndex (index : UInt16)
  | badTag (tag : UInt8)
  | kindMismatch (index : UInt16) (expected found : ConstantKind)
  | badText
  | malformedAttribute (name : String)
deriving DecidableEq

def hexadecimal (word : UInt32) : String :=
  let digits := Nat.toDigits 16 word.toNat
  String.ofList (List.replicate (8 - digits.length) '0' ++ digits)

def DecodeError.message : DecodeError → String
  | unexpectedEnd => "unexpected end of input"
  | trailingBytes => "trailing bytes after classfile"
  | badMagic found => "invalid classfile magic: 0x" ++ hexadecimal found
  | badIndex index => "invalid constant pool index: " ++ toString index.toNat
  | badTag tag => "invalid constant pool tag: " ++ toString tag.toNat
  | kindMismatch index expected found =>
    "constant pool type mismatch at index " ++ toString index.toNat ++ ": expected "
      ++ expected.text ++ ", found " ++ found.text
  | badText => "invalid modified UTF-8 constant"
  | malformedAttribute name => "malformed " ++ name ++ " attribute"

abbrev Decoder (α : Type) := StateT (List UInt8) (Except DecodeError) α

namespace Decoder

variable {α : Type}

def u1 : Decoder UInt8
  | [] => .error .unexpectedEnd
  | byte :: rest => .ok (byte, rest)

def u2 : Decoder UInt16 := do
  let high ← u1
  let low ← u1
  return UInt16.ofNat (high.toNat * 256 + low.toNat)

def u4 : Decoder UInt32 := do
  let high ← u2
  let low ← u2
  return UInt32.ofNat (high.toNat * 65536 + low.toNat)

def u8 : Decoder UInt64 := do
  let high ← u4
  let low ← u4
  return UInt64.ofNat (high.toNat * 4294967296 + low.toNat)

def bytes (count : Nat) : Decoder (List UInt8) := fun input =>
  if input.length < count then .error .unexpectedEnd
  else .ok (input.take count, input.drop count)

def times (item : Decoder α) : Nat → Decoder (List α)
  | 0 => return []
  | count + 1 => do
    let first ← item
    return first :: (← times item count)

/-- A list of items after a two-byte count of them. -/
def table (item : Decoder α) : Decoder (List α) := do
  times item (← u2).toNat

/-- Run a decoder on bytes that it has to use up. -/
def whole (surplus : DecodeError) (decoder : Decoder α) (input : List UInt8) :
    Except DecodeError α := do
  match ← decoder input with
  | (value, []) => return value
  | (_, _ :: _) => throw surplus

end Decoder

end JvmGenerics.ClassFile
