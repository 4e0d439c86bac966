import JvmGenerics.ClassFile.Basic

/-!
# Decoding class files

The layout of a class file. Names are looked up in the constant pool as soon as
their numbers are read, so of two faults the one that stands first is reported.
-/

namespace JvmGenerics.ClassFile

open Decoder

/-- What carries an attribute. Only a class has statements about nested classes
and an enclosing method; on a member such attributes are skipped. -/
inductive Carrier
  | member
  | wholeClass
deriving DecidableEq

def Attribute.signatureBody (pool : ConstantPool) : Decoder Attribute := do
  return .signature (← pool.utf8 (← u2))

def InnerClass.decoder (pool : ConstantPool) : Decoder InnerClass := do
  let inner ← u2
  let outer ← u2
  let name ← u2
  let accessFlags ← u2
  return {
    innerClass := ← pool.className inner
    outerClass := ← ConstantPool.optional pool.className outer
    innerName := ← ConstantPool.optional pool.utf8 name
    accessFlags := accessFlags }

def Attribute.innerClassesBody (pool : ConstantPool) : Decoder Attribute := do
  return .innerClasses (← table (InnerClass.decoder pool))

def Attribute.enclosingMethodBody (pool : ConstantPool) : Decoder Attribute := do
  let className ← pool.className (← u2)
  let method ← ConstantPool.optional pool.nameAndType (← u2)
  return .enclosingMethod ⟨className, method⟩

def Attribute.body? (pool : ConstantPool) (carrier : Carrier) (name : String) :
    Option (Decoder Attribute) :=
  match name, carrier with
  | "Signature", _ => some (signatureBody pool)
  | "InnerClasses", .wholeClass => some (innerClassesBody pool)
  | "EnclosingMethod", .wholeClass => some (enclosingMethodBody pool)
  | _, _ => none

/-- One attribute. A recognised one has to use up its bytes. -/
def Attribute.decoder (pool : ConstantPool) (carrier : Carrier) : Decoder Attribute := do
  let nameIndex ← u2
  let length ← u4
  let info ← bytes length.toNat
  let name ← pool.utf8 nameIndex
  match body? pool carrier name with
  | some body => whole (.malformedAttribute name) body info
  | none => return .unrecognised

def Member.decoder (pool : ConstantPool) : Decoder Member := do
  let accessFlags ← u2
  let name ← pool.utf8 (← u2)
  let descriptor ← pool.utf8 (← u2)
  let attributes ← table (Attribute.decoder pool .member)
  return ⟨accessFlags, name, descriptor, lastSignature attributes⟩

/-- The four bytes at the front of every class file. -/
def magic : UInt32 := 0xCAFEBABE

def decoder : Decoder ClassFile := do
  let found ← u4
  if found ≠ magic then throw (.badMagic found)
  let minorVersion ← u2
  let majorVersion ← u2
  let pool ← ConstantPool.decoder
  let accessFlags ← u2
  let thisClass ← pool.className (← u2)
  let superclass ← ConstantPool.optional pool.className (← u2)
  let interfaces ← table (do pool.className (← u2))
  let fields ← table (Member.decoder pool)
  let methods ← table (Member.decoder pool)
  let attributes ← table (Attribute.decoder pool .wholeClass)
  return {
    minorVersion := minorVersion
    majorVersion := majorVersion
    accessFlags := accessFlags
    thisClass := thisClass
    superclass := superclass
    interfaces := interfaces
    fields := fields
    methods := methods
    signature := lastSignature attributes
    innerClasses := allInnerClasses attributes
    enclosingMethod := lastEnclosingMethod attributes }

def decode (input : List UInt8) : Except DecodeError ClassFile :=
  whole .trailingBytes decoder input

end JvmGenerics.ClassFile
