import JvmGenerics.ClassFile.ModifiedUtf8
import Mathlib.Data.List.Basic

/-!
# Writing modified UTF-8

Every text has one shortest form in modified UTF-8: each 16-bit unit takes as few bytes as its
size allows, except that the zero unit takes two. Decoding gives the text back. A text consists
of characters, so all surrogates among its units are paired.
-/

namespace JvmGenerics.ClassFile.ModifiedUtf8

/-- The bytes of one unit: one, two or three by its size, where zero takes two. -/
def encodeUnit (unit : UInt16) : List UInt8 :=
  if 0x01 ≤ unit && unit < 0x80 then [UInt8.ofNat unit.toNat]
  else if unit < 0x800 then
    [UInt8.ofNat (0xC0 + unit.toNat / 64), UInt8.ofNat (0x80 + unit.toNat % 64)]
  else
    [UInt8.ofNat (0xE0 + unit.toNat / 4096), UInt8.ofNat (0x80 + unit.toNat / 64 % 64),
      UInt8.ofNat (0x80 + unit.toNat % 64)]

/-- The units of a character: one, or a surrogate pair beyond the first 65536 characters. -/
def unitsOf (c : Char) : List UInt16 :=
  if c.toNat < 0x10000 then [UInt16.ofNat c.toNat]
  else
    [UInt16.ofNat (0xD800 + (c.toNat - 0x10000) / 1024),
      UInt16.ofNat (0xDC00 + (c.toNat - 0x10000) % 1024)]

/-- The bytes of a text. -/
def encode (text : String) : List UInt8 :=
  (text.toList.flatMap unitsOf).flatMap encodeUnit

theorem isContinuation_iff {byte : UInt8} :
    isContinuation byte = true ↔ 0x80 ≤ byte.toNat ∧ byte.toNat < 0xC0 := by
  simp [isContinuation, UInt8.le_iff_toNat_le, UInt8.lt_iff_toNat_lt]

/-- Which kind of group a byte starts. -/
theorem starts_iff {low high byte : UInt8} :
    (low ≤ byte && byte < high) = true ↔ low.toNat ≤ byte.toNat ∧ byte.toNat < high.toNat := by
  simp [UInt8.le_iff_toNat_le, UInt8.lt_iff_toNat_lt]

section Groups

variable {first second third : UInt8} (rest : List UInt8)

theorem units_of_one (low : 0x01 ≤ first.toNat) (high : first.toNat < 0x80) :
    units (first :: rest) = (UInt16.ofNat first.toNat :: ·) <$> units rest := by
  have isOne : (0x01 ≤ first && first < 0x80) = true := starts_iff.mpr ⟨low, high⟩
  rw [units.eq_def]
  exact if_pos isOne

theorem units_of_two (low : 0xC0 ≤ first.toNat) (high : first.toNat < 0xE0)
    (continued : isContinuation second = true) :
    units (first :: second :: rest) =
      (UInt16.ofNat (first.toNat % 32 * 64 + payload second) :: ·) <$> units rest := by
  have notOne : ¬(0x01 ≤ first && first < 0x80) = true := fun isOne =>
    Nat.not_le_of_lt (starts_iff.mp isOne).2 (Nat.le_trans (by decide) low)
  have isTwo : (0xC0 ≤ first && first < 0xE0) = true := starts_iff.mpr ⟨low, high⟩
  rw [units.eq_def]
  exact (if_neg notOne).trans ((if_pos isTwo).trans (if_pos continued))

theorem units_of_three (low : 0xE0 ≤ first.toNat) (high : first.toNat < 0xF0)
    (continued : isContinuation second = true) (ended : isContinuation third = true) :
    units (first :: second :: third :: rest) =
      (UInt16.ofNat (first.toNat % 16 * 4096 + payload second * 64 + payload third) :: ·)
        <$> units rest := by
  have notOne : ¬(0x01 ≤ first && first < 0x80) = true := fun isOne =>
    Nat.not_le_of_lt (starts_iff.mp isOne).2 (Nat.le_trans (by decide) low)
  have notTwo : ¬(0xC0 ≤ first && first < 0xE0) = true := fun isTwo =>
    Nat.not_le_of_lt (starts_iff.mp isTwo).2 (Nat.le_trans (by decide) low)
  have isThree : (0xE0 ≤ first && first < 0xF0) = true := starts_iff.mpr ⟨low, high⟩
  have both : (isContinuation second && isContinuation third) = true := by
    rw [continued, ended]
    rfl
  rw [units.eq_def]
  exact (if_neg notOne).trans ((if_neg notTwo).trans ((if_pos isThree).trans (if_pos both)))

end Groups

/-- A byte inside a group carries the six bits that were put into it. -/
theorem continuation {bits : Nat} (small : bits < 64) :
    isContinuation (UInt8.ofNat (0x80 + bits)) = true ∧
      payload (UInt8.ofNat (0x80 + bits)) = bits := by
  have byte : (UInt8.ofNat (0x80 + bits)).toNat = 0x80 + bits :=
    UInt8.toNat_ofNat_of_lt' (by rw [UInt8.size]; omega)
  rw [isContinuation_iff, payload, byte]
  omega

theorem units_encodeUnit_append (unit : UInt16) (rest : List UInt8) :
    units (encodeUnit unit ++ rest) = (unit :: ·) <$> units rest := by
  have bound : unit.toNat < 65536 := unit.toNat_lt
  rw [encodeUnit]
  split
  · next one =>
    obtain ⟨low, high⟩ : 1 ≤ unit.toNat ∧ unit.toNat < 128 := by
      simpa [UInt16.le_iff_toNat_le, UInt16.lt_iff_toNat_lt] using one
    have byte : (UInt8.ofNat unit.toNat).toNat = unit.toNat :=
      UInt8.toNat_ofNat_of_lt' (by rw [UInt8.size]; omega)
    rw [List.singleton_append, units_of_one rest (by omega) (by omega), byte, UInt16.ofNat_toNat]
  · split
    · next two =>
      have small : unit.toNat < 2048 := by simpa [UInt16.lt_iff_toNat_lt] using two
      have first : (UInt8.ofNat (0xC0 + unit.toNat / 64)).toNat = 0xC0 + unit.toNat / 64 :=
        UInt8.toNat_ofNat_of_lt' (by rw [UInt8.size]; omega)
      obtain ⟨continued, low⟩ := continuation (Nat.mod_lt unit.toNat (by decide : 0 < 64))
      have same : (0xC0 + unit.toNat / 64) % 32 * 64 + unit.toNat % 64 = unit.toNat := by omega
      rw [List.cons_append, List.singleton_append,
        units_of_two rest (by omega) (by omega) continued, first, low, same, UInt16.ofNat_toNat]
    · have first : (UInt8.ofNat (0xE0 + unit.toNat / 4096)).toNat = 0xE0 + unit.toNat / 4096 :=
        UInt8.toNat_ofNat_of_lt' (by rw [UInt8.size]; omega)
      obtain ⟨continued, middle⟩ :=
        continuation (Nat.mod_lt (unit.toNat / 64) (by decide : 0 < 64))
      obtain ⟨ended, low⟩ := continuation (Nat.mod_lt unit.toNat (by decide : 0 < 64))
      have same : (0xE0 + unit.toNat / 4096) % 16 * 4096 + unit.toNat / 64 % 64 * 64 +
          unit.toNat % 64 = unit.toNat := by omega
      rw [List.cons_append, List.cons_append, List.singleton_append,
        units_of_three rest (by omega) (by omega) continued ended, first, middle, low, same,
        UInt16.ofNat_toNat]

theorem units_flatMap_encodeUnit (list : List UInt16) :
    units (list.flatMap encodeUnit) = some list := by
  induction list with
  | nil => rfl
  | cons unit rest ih =>
    rw [List.flatMap_cons, units_encodeUnit_append, ih, Option.map_eq_map, Option.map_some]

theorem isHighSurrogate_iff {unit : UInt16} :
    isHighSurrogate unit = true ↔ 0xD800 ≤ unit.toNat ∧ unit.toNat < 0xDC00 := by
  simp [isHighSurrogate, UInt16.le_iff_toNat_le, UInt16.lt_iff_toNat_lt]

theorem isLowSurrogate_iff {unit : UInt16} :
    isLowSurrogate unit = true ↔ 0xDC00 ≤ unit.toNat ∧ unit.toNat < 0xE000 := by
  simp [isLowSurrogate, UInt16.le_iff_toNat_le, UInt16.lt_iff_toNat_lt]

theorem characters_of_scalar {unit : UInt16} (notHigh : ¬isHighSurrogate unit = true)
    (notLow : ¬isLowSurrogate unit = true) (rest : List UInt16) :
    characters (unit :: rest) = (Char.ofNat unit.toNat :: ·) <$> characters rest := by
  rw [characters.eq_def]
  exact (if_neg notHigh).trans (if_neg notLow)

theorem characters_of_pair {high low : UInt16} (isHigh : isHighSurrogate high = true)
    (isLow : isLowSurrogate low = true) (rest : List UInt16) :
    characters (high :: low :: rest) = (supplementary high low :: ·) <$> characters rest := by
  rw [characters.eq_def]
  exact (if_pos isHigh).trans (if_pos isLow)

/-- Both halves of a number of twenty bits fit into a surrogate pair. -/
theorem surrogates {offset : Nat} (small : offset < 0x100000) :
    let high := UInt16.ofNat (0xD800 + offset / 1024)
    let low := UInt16.ofNat (0xDC00 + offset % 1024)
    isHighSurrogate high = true ∧ isLowSurrogate low = true ∧
      supplementary high low = Char.ofNat (0x10000 + offset) := by
  intro high low
  have highUnit : high.toNat = 0xD800 + offset / 1024 :=
    UInt16.toNat_ofNat_of_lt' (by rw [UInt16.size]; omega)
  have lowUnit : low.toNat = 0xDC00 + offset % 1024 :=
    UInt16.toNat_ofNat_of_lt' (by rw [UInt16.size]; omega)
  have same : 0x10000 + (0xD800 + offset / 1024) % 1024 * 1024 + (0xDC00 + offset % 1024) % 1024 =
      0x10000 + offset := by omega
  rw [isHighSurrogate_iff, isLowSurrogate_iff, supplementary, highUnit, lowUnit, same]
  exact ⟨by omega, by omega, rfl⟩

/-- No character is a surrogate, and none is beyond the last plane. -/
theorem scalar_toNat (c : Char) : c.toNat < 0xD800 ∨ 0xE000 ≤ c.toNat ∧ c.toNat < 0x110000 := by
  rcases c.valid with below | ⟨above, limited⟩
  · exact Or.inl below
  · exact Or.inr ⟨above, limited⟩

theorem characters_unitsOf_append (c : Char) (rest : List UInt16) :
    characters (unitsOf c ++ rest) = (c :: ·) <$> characters rest := by
  have scalar := scalar_toNat c
  rw [unitsOf]
  split
  · next single =>
    have unit : (UInt16.ofNat c.toNat).toNat = c.toNat := UInt16.toNat_ofNat_of_lt' single
    have notHigh : ¬isHighSurrogate (UInt16.ofNat c.toNat) = true := by
      rw [isHighSurrogate_iff, unit]
      omega
    have notLow : ¬isLowSurrogate (UInt16.ofNat c.toNat) = true := by
      rw [isLowSurrogate_iff, unit]
      omega
    rw [List.singleton_append, characters_of_scalar notHigh notLow, unit, Char.ofNat_toNat]
  · next pair =>
    obtain ⟨isHigh, isLow, paired⟩ := surrogates (show c.toNat - 0x10000 < 0x100000 by omega)
    have same : 0x10000 + (c.toNat - 0x10000) = c.toNat := by omega
    rw [List.cons_append, List.singleton_append, characters_of_pair isHigh isLow, paired, same,
      Char.ofNat_toNat]

theorem characters_flatMap_unitsOf (text : List Char) :
    characters (text.flatMap unitsOf) = some text := by
  induction text with
  | nil => rfl
  | cons c rest ih =>
    rw [List.flatMap_cons, characters_unitsOf_append, ih, Option.map_eq_map, Option.map_some]

/-- Every text is given back by its bytes. -/
theorem decode_encode (text : String) : decode (encode text) = some text := by
  rw [decode, encode, units_flatMap_encodeUnit, Option.bind_some, characters_flatMap_unitsOf,
    Option.map_some, String.ofList_toList]

end JvmGenerics.ClassFile.ModifiedUtf8
