/-!
# Modified UTF-8

The text constants of a class file are sequences of 16-bit units. Each unit is
written as one, two or three bytes by its size, except that the zero unit takes
two bytes, and a supplementary character is written as its two surrogates. A
unit may also be written with more bytes than it needs.
-/

namespace JvmGenerics.ClassFile.ModifiedUtf8

/-- Whether a byte may stand inside a group, after its first byte. -/
def isContinuation (byte : UInt8) : Bool :=
  0x80 ≤ byte && byte < 0xC0

/-- The six low bits that a byte inside a group carries. -/
def payload (byte : UInt8) : Nat :=
  byte.toNat % 64

/-- The units that the bytes are groups for, if they are. -/
def units : List UInt8 → Option (List UInt16)
  | [] => some []
  | first :: rest =>
    if 0x01 ≤ first && first < 0x80 then
      (UInt16.ofNat first.toNat :: ·) <$> units rest
    else if 0xC0 ≤ first && first < 0xE0 then
      match rest with
      | second :: rest =>
        if isContinuation second then
          (UInt16.ofNat (first.toNat % 32 * 64 + payload second) :: ·) <$> units rest
        else none
      | [] => none
    else if 0xE0 ≤ first && first < 0xF0 then
      match rest with
      | second :: third :: rest =>
        if isContinuation second && isContinuation third then
          (UInt16.ofNat (first.toNat % 16 * 4096 + payload second * 64 + payload third) :: ·)
            <$> units rest
        else none
      | _ => none
    else none

/-- Whether a unit is the first of a surrogate pair. -/
def isHighSurrogate (unit : UInt16) : Bool :=
  0xD800 ≤ unit && unit < 0xDC00

/-- Whether a unit is the second of a surrogate pair. -/
def isLowSurrogate (unit : UInt16) : Bool :=
  0xDC00 ≤ unit && unit < 0xE000

/-- The character beyond the first 65536 that a surrogate pair stands for. -/
def supplementary (high low : UInt16) : Char :=
  Char.ofNat (0x10000 + high.toNat % 1024 * 1024 + low.toNat % 1024)

/-- The characters that units stand for, if every surrogate is paired. -/
def characters : List UInt16 → Option (List Char)
  | [] => some []
  | unit :: rest =>
    if isHighSurrogate unit then
      match rest with
      | low :: rest =>
        if isLowSurrogate low then (supplementary unit low :: ·) <$> characters rest else none
      | [] => none
    else if isLowSurrogate unit then none
    else (Char.ofNat unit.toNat :: ·) <$> characters rest

/-- The text that the bytes stand for, if they stand for one. -/
def decode (bytes : List UInt8) : Option String :=
  ((units bytes).bind characters).map String.ofList

end JvmGenerics.ClassFile.ModifiedUtf8
