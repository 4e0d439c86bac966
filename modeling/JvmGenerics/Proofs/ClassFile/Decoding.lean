import JvmGenerics.ClassFile.Decoder
import Mathlib.Data.List.Basic

/-!
# Decoders and the bytes of values

A decoder belongs to an encoding if it takes the bytes of a value off the front of any input
and answers that value. This is carried from the parts of a decoder to the whole of it, and
from one item to a table of items.
-/

namespace JvmGenerics.ClassFile

/-- A list that two bytes can count. -/
abbrev Counted (α : Type) := { list : List α // list.length < 65536 }

namespace Encoder

def u2 (word : UInt16) : List UInt8 :=
  [UInt8.ofNat (word.toNat / 256), UInt8.ofNat (word.toNat % 256)]

def u4 (word : UInt32) : List UInt8 :=
  u2 (UInt16.ofNat (word.toNat / 65536)) ++ u2 (UInt16.ofNat (word.toNat % 65536))

def u8 (word : UInt64) : List UInt8 :=
  u4 (UInt32.ofNat (word.toNat / 4294967296)) ++ u4 (UInt32.ofNat (word.toNat % 4294967296))

/-- The bytes of a list of items, after a two-byte count of them. -/
def table {α : Type} (item : α → List UInt8) (list : Counted α) : List UInt8 :=
  u2 (UInt16.ofNat list.val.length) ++ list.val.flatMap item

end Encoder

namespace Decoder

variable {α β : Type} {decoder : Decoder α} {next : α → Decoder β} {first : α} {value : β}
variable {input further : List UInt8}

/-- The decoder takes the given bytes off the front of any input and answers the value. -/
def Decodes (decoder : Decoder α) (input : List UInt8) (value : α) : Prop :=
  ∀ rest, decoder (input ++ rest) = .ok (value, rest)

namespace Decodes

theorem pure (value : α) : Decodes (pure value) [] value :=
  fun _ => rfl

theorem bind (decodes : decoder.Decodes input first)
    (thenDecodes : (next first).Decodes further value) :
    (decoder >>= next).Decodes (input ++ further) value := by
  intro rest
  change Except.bind (decoder (input ++ further ++ rest)) _ = _
  rw [List.append_assoc, decodes]
  exact thenDecodes rest

/-- The last bytes are taken before the value is known. -/
theorem bind_last (decodes : decoder.Decodes input first)
    (thenDecodes : (next first).Decodes [] value) : (decoder >>= next).Decodes input value := by
  have both := decodes.bind thenDecodes
  rwa [List.append_nil] at both

theorem bind_pure (transform : α → β) (decodes : decoder.Decodes input first) :
    (decoder >>= fun value => Pure.pure (transform value)).Decodes input (transform first) :=
  decodes.bind_last (Decodes.pure (transform first))

/-- What is looked up in between takes no bytes. -/
theorem lookup {result : Except DecodeError α} (found : result = .ok first) :
    (liftM result : Decoder α).Decodes [] first := by
  rw [found]
  exact fun _ => rfl

theorem after {result : Except DecodeError α} (found : result = .ok first)
    (thenDecodes : (next first).Decodes input value) :
    ((liftM result : Decoder α) >>= next).Decodes input value :=
  (lookup found).bind thenDecodes

end Decodes

theorem whole_of_decodes (surplus : DecodeError) (decodes : decoder.Decodes input first) :
    whole surplus decoder input = .ok first := by
  have alone := decodes []
  rw [List.append_nil] at alone
  rw [whole, alone]
  rfl

theorem u1_decodes (byte : UInt8) : u1.Decodes [byte] byte :=
  fun _ => rfl

/-- A number that is read as its high and its low half. -/
theorem halves_decode {half : Decoder α} {high low : α} (combine : α → α → β)
    (highDecodes : half.Decodes input high) (lowDecodes : half.Decodes further low) :
    (half >>= fun first => half >>= fun second => pure (combine first second)).Decodes
      (input ++ further) (combine high low) :=
  highDecodes.bind (lowDecodes.bind_pure (combine high))

theorem u2_decodes (word : UInt16) : u2.Decodes (Encoder.u2 word) word := by
  have bound : word.toNat < 65536 := word.toNat_lt
  have high : (UInt8.ofNat (word.toNat / 256)).toNat = word.toNat / 256 :=
    UInt8.toNat_ofNat_of_lt' (by rw [UInt8.size]; omega)
  have low : (UInt8.ofNat (word.toNat % 256)).toNat = word.toNat % 256 :=
    UInt8.toNat_ofNat_of_lt' (by rw [UInt8.size]; omega)
  have same : word.toNat / 256 * 256 + word.toNat % 256 = word.toNat := by omega
  have read : u2.Decodes (Encoder.u2 word) _ :=
    halves_decode _ (u1_decodes (UInt8.ofNat (word.toNat / 256)))
      (u1_decodes (UInt8.ofNat (word.toNat % 256)))
  rwa [high, low, same, UInt16.ofNat_toNat] at read

theorem u4_decodes (word : UInt32) : u4.Decodes (Encoder.u4 word) word := by
  have bound : word.toNat < 4294967296 := word.toNat_lt
  have high : (UInt16.ofNat (word.toNat / 65536)).toNat = word.toNat / 65536 :=
    UInt16.toNat_ofNat_of_lt' (by rw [UInt16.size]; omega)
  have low : (UInt16.ofNat (word.toNat % 65536)).toNat = word.toNat % 65536 :=
    UInt16.toNat_ofNat_of_lt' (by rw [UInt16.size]; omega)
  have same : word.toNat / 65536 * 65536 + word.toNat % 65536 = word.toNat := by omega
  have read : u4.Decodes (Encoder.u4 word) _ := halves_decode _ (u2_decodes _) (u2_decodes _)
  rwa [high, low, same, UInt32.ofNat_toNat] at read

theorem u8_decodes (word : UInt64) : u8.Decodes (Encoder.u8 word) word := by
  have bound : word.toNat < 18446744073709551616 := word.toNat_lt
  have high : (UInt32.ofNat (word.toNat / 4294967296)).toNat = word.toNat / 4294967296 :=
    UInt32.toNat_ofNat_of_lt' (by rw [UInt32.size]; omega)
  have low : (UInt32.ofNat (word.toNat % 4294967296)).toNat = word.toNat % 4294967296 :=
    UInt32.toNat_ofNat_of_lt' (by rw [UInt32.size]; omega)
  have same : word.toNat / 4294967296 * 4294967296 + word.toNat % 4294967296 = word.toNat := by
    omega
  have read : u8.Decodes (Encoder.u8 word) _ := halves_decode _ (u4_decodes _) (u4_decodes _)
  rwa [high, low, same, UInt64.ofNat_toNat] at read

theorem bytes_decode (info : List UInt8) : (bytes info.length).Decodes info info := by
  intro rest
  have enough : ¬(info ++ rest).length < info.length := by
    rw [List.length_append]
    omega
  rw [bytes, if_neg enough, List.take_left, List.drop_left]

theorem times_decodes {item : Decoder β} {encode : α → List UInt8} {meaning : α → β}
    {list : List α} (items : ∀ entry ∈ list, item.Decodes (encode entry) (meaning entry)) :
    (times item list.length).Decodes (list.flatMap encode) (list.map meaning) := by
  induction list with
  | nil => exact Decodes.pure []
  | cons entry others ih =>
    rw [List.forall_mem_cons] at items
    exact items.1.bind ((ih items.2).bind_pure (meaning entry :: ·))

theorem table_decodes {item : Decoder β} {encode : α → List UInt8} {meaning : α → β}
    {list : Counted α} (items : ∀ entry ∈ list.val, item.Decodes (encode entry) (meaning entry)) :
    (table item).Decodes (Encoder.table encode list) (list.val.map meaning) := by
  apply (u2_decodes (UInt16.ofNat list.val.length)).bind
  rw [UInt16.toNat_ofNat_of_lt' list.property]
  exact times_decodes items

end Decoder

end JvmGenerics.ClassFile
