import JvmGenerics.ClassFile.Decoder
import JvmGenerics.ClassFile.ModifiedUtf8
import JvmGenerics.Names

/-!
# The constant pool

The pool numbers the constants of a class file from one. A `long` or a `double`
takes two numbers, of which the second names nothing. Constants refer to each
other by number, and only the reader of a reference knows what kind of constant
it should find there.
-/

namespace JvmGenerics.ClassFile

/-- The three kinds of references to members of a class. -/
inductive MemberRefKind
  | field
  | method
  | interfaceMethod
deriving DecidableEq

/-- A constant. Numbers that refer to other constants are kept as they stand. -/
inductive Constant
  | utf8 (text : String)
  | integer (bits : UInt32)
  | float (bits : UInt32)
  | long (bits : UInt64)
  | double (bits : UInt64)
  | classInfo (name : UInt16)
  | string (text : UInt16)
  | memberRef (kind : MemberRefKind) (owner nameAndType : UInt16)
  | nameAndType (name descriptor : UInt16)
  | methodHandle (kind : UInt8) (reference : UInt16)
  | methodType (descriptor : UInt16)
  | dynamic (isCallSite : Bool) (bootstrap nameAndType : UInt16)
  | moduleInfo (name : UInt16)
  | packageInfo (name : UInt16)
deriving DecidableEq

namespace Constant

def kind : Constant → ConstantKind
  | utf8 _ => .utf8
  | integer _ => .integer
  | float _ => .float
  | long _ => .long
  | double _ => .double
  | classInfo _ => .classInfo
  | string _ => .string
  | memberRef _ _ _ => .memberRef
  | nameAndType _ _ => .nameAndType
  | methodHandle _ _ => .methodHandle
  | methodType _ => .methodType
  | dynamic _ _ _ => .dynamic
  | moduleInfo _ => .moduleInfo
  | packageInfo _ => .packageInfo

def isWide : Constant → Bool
  | long _ => true
  | double _ => true
  | _ => false

open Decoder

def text : Decoder String := do
  match ModifiedUtf8.decode (← bytes (← u2).toNat) with
  | some text => return text
  | none => throw .badText

def afterTag (tag : UInt8) : Decoder Constant :=
  match tag with
  | 1 => return .utf8 (← text)
  | 3 => return .integer (← u4)
  | 4 => return .float (← u4)
  | 5 => return .long (← u8)
  | 6 => return .double (← u8)
  | 7 => return .classInfo (← u2)
  | 8 => return .string (← u2)
  | 9 => return .memberRef .field (← u2) (← u2)
  | 10 => return .memberRef .method (← u2) (← u2)
  | 11 => return .memberRef .interfaceMethod (← u2) (← u2)
  | 12 => return .nameAndType (← u2) (← u2)
  | 15 => return .methodHandle (← u1) (← u2)
  | 16 => return .methodType (← u2)
  | 17 => return .dynamic false (← u2) (← u2)
  | 18 => return .dynamic true (← u2) (← u2)
  | 19 => return .moduleInfo (← u2)
  | 20 => return .packageInfo (← u2)
  | _ => throw (.badTag tag)

def decoder : Decoder Constant := do
  afterTag (← u1)

/-- Constants that fill a number of slots. A constant of two slots may still begin
in the last one. -/
def slots : Nat → Decoder (List (Option Constant))
  | 0 => return []
  | 1 => return [some (← decoder)]
  | count + 2 => do
    let first ← decoder
    if first.isWide then return some first :: none :: (← slots count)
    else return some first :: (← slots (count + 1))

end Constant

/-- The constants by number. A number may name none. -/
structure ConstantPool where
  slots : Array (Option Constant)

namespace ConstantPool

/-- A pool after the count of its numbers, where the number zero counts too. -/
def decoder : Decoder ConstantPool := do
  let count ← Decoder.u2
  return ⟨(none :: (← Constant.slots (count.toNat - 1))).toArray⟩

def get (pool : ConstantPool) (index : UInt16) : Except DecodeError Constant :=
  match pool.slots[index.toNat]? with
  | some (some constant) => .ok constant
  | _ => .error (.badIndex index)

def utf8 (pool : ConstantPool) (index : UInt16) : Except DecodeError String := do
  match ← pool.get index with
  | .utf8 text => return text
  | other => throw (.kindMismatch index .utf8 other.kind)

/-- The internal name of the class of a given number. -/
def className (pool : ConstantPool) (index : UInt16) : Except DecodeError String := do
  match ← pool.get index with
  | .classInfo name => pool.utf8 name
  | other => throw (.kindMismatch index .classInfo other.kind)

def nameAndType (pool : ConstantPool) (index : UInt16) : Except DecodeError MethodKey := do
  match ← pool.get index with
  | .nameAndType name descriptor => return ⟨← pool.utf8 name, ← pool.utf8 descriptor⟩
  | other => throw (.kindMismatch index .nameAndType other.kind)

/-- What a number stands for, where zero stands for nothing. -/
def optional {α : Type} (find : UInt16 → Except DecodeError α) (index : UInt16) :
    Except DecodeError (Option α) :=
  if index = 0 then .ok none else some <$> find index

end ConstantPool

end JvmGenerics.ClassFile
