import JvmGenerics.ClassFile.ConstantPool
import JvmGenerics.Proofs.ClassFile.Decoding
import JvmGenerics.Proofs.ClassFile.ModifiedUtf8

/-!
# Constant pools

A constant pool is any list of constants that two bytes can count the slots of. Its constants
may refer to numbers that name nothing, or something else than they should. A number that does
name a constant of the right kind comes with the proof of that, so what it stands for is known
before anything is read.
-/

namespace JvmGenerics.ClassFile

namespace MemberRefKind

def tag : MemberRefKind → UInt8
  | field => 9
  | method => 10
  | interfaceMethod => 11

end MemberRefKind

namespace Constant

open Encoder

/-- The byte in front of a constant. -/
def tag : Constant → UInt8
  | utf8 _ => 1
  | integer _ => 3
  | float _ => 4
  | long _ => 5
  | double _ => 6
  | classInfo _ => 7
  | string _ => 8
  | memberRef kind _ _ => kind.tag
  | nameAndType _ _ => 12
  | methodHandle _ _ => 15
  | methodType _ => 16
  | dynamic isCallSite _ _ => if isCallSite then 18 else 17
  | moduleInfo _ => 19
  | packageInfo _ => 20

/-- The bytes of a text, after a two-byte count of them. -/
def textBytes (text : String) : List UInt8 :=
  u2 (UInt16.ofNat (ModifiedUtf8.encode text).length) ++ ModifiedUtf8.encode text

/-- The bytes of a constant after its tag. -/
def content : Constant → List UInt8
  | utf8 text => textBytes text
  | integer bits | float bits => u4 bits
  | long bits | double bits => u8 bits
  | classInfo number | string number | methodType number | moduleInfo number
  | packageInfo number => u2 number
  | memberRef _ first second | nameAndType first second | dynamic _ first second =>
    u2 first ++ u2 second
  | methodHandle kind reference => kind :: u2 reference

def encode (constant : Constant) : List UInt8 :=
  constant.tag :: constant.content

/-- A text is no longer than two bytes can count. -/
def Encodable : Constant → Prop
  | utf8 text => (ModifiedUtf8.encode text).length < 65536
  | _ => True

/-- The slots that a constant takes. The second slot of a wide constant holds nothing. -/
def filling (constant : Constant) : List (Option Constant) :=
  some constant :: if constant.isWide then [none] else []

/-- The number of slots that constants take. -/
def slotCount (constants : List Constant) : Nat :=
  (constants.flatMap filling).length

open Decoder

theorem text_decodes {content : String} (short : (ModifiedUtf8.encode content).length < 65536) :
    text.Decodes (textBytes content) content := by
  apply (u2_decodes (UInt16.ofNat (ModifiedUtf8.encode content).length)).bind
  rw [UInt16.toNat_ofNat_of_lt' short]
  apply (bytes_decode (ModifiedUtf8.encode content)).bind_last
  rw [ModifiedUtf8.decode_encode]
  exact Decodes.pure content

theorem afterTag_decodes {constant : Constant} (encodable : constant.Encodable) :
    (afterTag constant.tag).Decodes constant.content constant := by
  cases constant with
  | utf8 content => exact (text_decodes encodable).bind_pure utf8
  | integer bits => exact (u4_decodes bits).bind_pure integer
  | float bits => exact (u4_decodes bits).bind_pure float
  | long bits => exact (u8_decodes bits).bind_pure long
  | double bits => exact (u8_decodes bits).bind_pure double
  | classInfo name => exact (u2_decodes name).bind_pure classInfo
  | string text => exact (u2_decodes text).bind_pure string
  | memberRef kind owner nameAndType =>
    cases kind with
    | field => exact halves_decode (memberRef .field) (u2_decodes owner) (u2_decodes nameAndType)
    | method => exact halves_decode (memberRef .method) (u2_decodes owner) (u2_decodes nameAndType)
    | interfaceMethod =>
      exact halves_decode (memberRef .interfaceMethod) (u2_decodes owner) (u2_decodes nameAndType)
  | nameAndType name descriptor =>
    exact halves_decode nameAndType (u2_decodes name) (u2_decodes descriptor)
  | methodHandle kind reference =>
    exact (u1_decodes kind).bind ((u2_decodes reference).bind_pure (methodHandle kind))
  | methodType descriptor => exact (u2_decodes descriptor).bind_pure methodType
  | dynamic isCallSite bootstrap nameAndType =>
    cases isCallSite with
    | false => exact halves_decode (dynamic false) (u2_decodes bootstrap) (u2_decodes nameAndType)
    | true => exact halves_decode (dynamic true) (u2_decodes bootstrap) (u2_decodes nameAndType)
  | moduleInfo name => exact (u2_decodes name).bind_pure moduleInfo
  | packageInfo name => exact (u2_decodes name).bind_pure packageInfo

theorem decoder_decodes {constant : Constant} (encodable : constant.Encodable) :
    decoder.Decodes constant.encode constant :=
  (u1_decodes constant.tag).bind (afterTag_decodes encodable)

theorem slotCount_cons (constant : Constant) (others : List Constant) :
    slotCount (constant :: others) = constant.filling.length + slotCount others := by
  rw [slotCount, List.flatMap_cons, List.length_append]
  rfl

/-- One slot is read, and then the others, whether there are any or not. -/
theorem slots_of_narrow {constant : Constant} {input : List UInt8} {others : List (Option Constant)}
    {count : Nat} (narrow : constant.isWide = false) (encodable : constant.Encodable)
    (further : (slots count).Decodes input others) :
    (slots (count + 1)).Decodes (constant.encode ++ input) (some constant :: others) := by
  cases count with
  | zero =>
    have nothing : (Except.ok ([], input ++ []) : Except DecodeError _) = .ok (others, []) :=
      further []
    simp only [Except.ok.injEq, Prod.mk.injEq, List.append_nil] at nothing
    obtain ⟨rfl, rfl⟩ := nothing
    rw [List.append_nil]
    exact (decoder_decodes encodable).bind_pure fun constant => [some constant]
  | succ fewer =>
    rw [slots]
    apply (decoder_decodes encodable).bind
    rw [narrow]
    exact further.bind_pure (some constant :: ·)

theorem slots_of_wide {constant : Constant} {input : List UInt8} {others : List (Option Constant)}
    {count : Nat} (wide : constant.isWide = true) (encodable : constant.Encodable)
    (further : (slots count).Decodes input others) :
    (slots (count + 2)).Decodes (constant.encode ++ input) (some constant :: none :: others) := by
  rw [slots]
  apply (decoder_decodes encodable).bind
  rw [wide]
  exact further.bind_pure (some constant :: none :: ·)

theorem slots_decodes {constants : List Constant}
    (encodable : ∀ constant ∈ constants, constant.Encodable) :
    (slots (slotCount constants)).Decodes (constants.flatMap encode)
      (constants.flatMap filling) := by
  induction constants with
  | nil => exact Decodes.pure []
  | cons constant others ih =>
    rw [List.forall_mem_cons] at encodable
    have further := ih encodable.2
    rw [slotCount_cons, Nat.add_comm, List.flatMap_cons, List.flatMap_cons]
    cases width : constant.isWide with
    | false =>
      have one : constant.filling = [some constant] := by simp [filling, width]
      rw [one]
      exact slots_of_narrow width encodable.1 further
    | true =>
      have two : constant.filling = [some constant, none] := by simp [filling, width]
      rw [two]
      exact slots_of_wide width encodable.1 further

end Constant

/-- The constants of a class file. Every text is short enough for its count, and two bytes can
count all slots, the number zero included. -/
structure PoolLayout where
  constants : List Constant
  encodable : ∀ constant ∈ constants, constant.Encodable
  few : Constant.slotCount constants < 65535

namespace PoolLayout

variable {layout : PoolLayout} {number : UInt16} {constant : Constant}

def encode (layout : PoolLayout) : List UInt8 :=
  Encoder.u2 (UInt16.ofNat (Constant.slotCount layout.constants + 1)) ++
    layout.constants.flatMap Constant.encode

/-- The constants by number. The number zero names nothing. -/
def pool (layout : PoolLayout) : ConstantPool :=
  ⟨(none :: layout.constants.flatMap Constant.filling).toArray⟩

theorem decoder_decodes (layout : PoolLayout) :
    ConstantPool.decoder.Decodes layout.encode layout.pool := by
  have count : (UInt16.ofNat (Constant.slotCount layout.constants + 1)).toNat - 1 =
      Constant.slotCount layout.constants := by
    rw [UInt16.toNat_ofNat_of_lt' (Nat.succ_lt_succ layout.few)]
    rfl
  apply (Decoder.u2_decodes _).bind
  rw [count]
  exact (Constant.slots_decodes layout.encodable).bind_pure fun slots =>
    ConstantPool.mk (none :: slots).toArray

/-- The number names the constant: as many slots as it says come before, the number zero
included. -/
def Holds (layout : PoolLayout) (number : UInt16) (constant : Constant) : Prop :=
  ∃ before after, layout.constants = before ++ constant :: after ∧
    number.toNat = Constant.slotCount before + 1

theorem Holds.ne_zero (holds : layout.Holds number constant) : number ≠ 0 := by
  rintro rfl
  obtain ⟨before, after, -, position⟩ := holds
  exact absurd position.symm (Nat.succ_ne_zero _)

theorem Holds.get_eq (holds : layout.Holds number constant) :
    layout.pool.get number = .ok constant := by
  obtain ⟨before, after, split, position⟩ := holds
  have slot : layout.pool.slots[number.toNat]? = some (some constant) := by
    rw [pool, List.getElem?_toArray, split, position, List.getElem?_cons_succ, List.flatMap_append,
      Constant.slotCount, List.getElem?_append_right (Nat.le_refl _), Nat.sub_self]
    rfl
  rw [ConstantPool.get, slot]

end PoolLayout

/-- The number of a text. -/
structure TextNumber (layout : PoolLayout) where
  number : UInt16
  text : String
  holds : layout.Holds number (.utf8 text)

/-- The number of a class, which refers to the number of its name. -/
structure ClassNumber (layout : PoolLayout) where
  number : UInt16
  name : TextNumber layout
  holds : layout.Holds number (.classInfo name.number)

/-- The number of a name with a descriptor. -/
structure MethodNumber (layout : PoolLayout) where
  number : UInt16
  name : TextNumber layout
  descriptor : TextNumber layout
  holds : layout.Holds number (.nameAndType name.number descriptor.number)

namespace ClassNumber

variable {layout : PoolLayout}

/-- The internal name of the class. -/
def text (reference : ClassNumber layout) : String :=
  reference.name.text

end ClassNumber

/-- The method that the name and the descriptor stand for. -/
def MethodNumber.key {layout : PoolLayout} (reference : MethodNumber layout) : MethodKey :=
  ⟨reference.name.text, reference.descriptor.text⟩

variable {layout : PoolLayout}

theorem TextNumber.utf8_eq (reference : TextNumber layout) :
    layout.pool.utf8 reference.number = .ok reference.text := by
  rw [ConstantPool.utf8, reference.holds.get_eq]
  rfl

theorem ClassNumber.className_eq (reference : ClassNumber layout) :
    layout.pool.className reference.number = .ok reference.text := by
  rw [ConstantPool.className, reference.holds.get_eq]
  exact reference.name.utf8_eq

theorem MethodNumber.nameAndType_eq (reference : MethodNumber layout) :
    layout.pool.nameAndType reference.number = .ok reference.key := by
  rw [ConstantPool.nameAndType, reference.holds.get_eq]
  simp only [bind, Except.bind, reference.name.utf8_eq, reference.descriptor.utf8_eq]
  rfl

/-- A number that may be missing is zero then, and zero names nothing. -/
def optionalNumber {α : Type} (number : α → UInt16) (reference : Option α) : UInt16 :=
  reference.elim 0 number

theorem optional_eq {α β : Type} {find : UInt16 → Except DecodeError β} {number : α → UInt16}
    {meaning : α → β} (nonzero : ∀ entry, number entry ≠ 0)
    (found : ∀ entry, find (number entry) = .ok (meaning entry)) (reference : Option α) :
    ConstantPool.optional find (optionalNumber number reference) = .ok (reference.map meaning) := by
  cases reference with
  | none => rfl
  | some entry =>
    rw [optionalNumber, Option.elim_some, ConstantPool.optional, if_neg (nonzero entry), found]
    rfl

end JvmGenerics.ClassFile
