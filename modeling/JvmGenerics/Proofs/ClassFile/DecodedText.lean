import JvmGenerics.ClassFile.ConstantPool
import JvmGenerics.Proofs.ClassFile.Decoding
import JvmGenerics.Proofs.ClassFile.ModifiedUtf8

/-!
# The text that bytes stand for

The bytes of a text constant are groups of one, two or three bytes, and each group stands for
one 16-bit unit. Which groups there are is said here bit by bit. Bytes are decoded exactly if
they split into such groups and every surrogate among the units is half of a pair, and the text
is then the one that has these units.
-/

namespace JvmGenerics.ClassFile.ModifiedUtf8

/-- The groups of bytes that stand for a unit. The leading bits of the first byte tell how many
bytes there are, and the other bits, put one behind the other, are those of the unit. -/
inductive Group : List UInt8 → UInt16 → Prop
  | one (low : BitVec 7) (nonzero : low ≠ 0#7) : Group [⟨0b0#1 ++ low⟩] ⟨0#9 ++ low⟩
  | two (high : BitVec 5) (low : BitVec 6) :
      Group [⟨0b110#3 ++ high⟩, ⟨0b10#2 ++ low⟩] ⟨0#5 ++ high ++ low⟩
  | three (high : BitVec 4) (middle low : BitVec 6) :
      Group [⟨0b1110#4 ++ high⟩, ⟨0b10#2 ++ middle⟩, ⟨0b10#2 ++ low⟩] ⟨high ++ middle ++ low⟩

/-- The bytes are groups, one for each of the units. -/
inductive Groups : List UInt8 → List UInt16 → Prop
  | nil : Groups [] []
  | cons {group bytes : List UInt8} {unit : UInt16} {list : List UInt16} :
      Group group unit → Groups bytes list → Groups (group ++ bytes) (unit :: list)

theorem toNat_append {high low : Nat} (first : BitVec high) (second : BitVec low) :
    (first ++ second).toNat = first.toNat <<< low + second.toNat := by
  rw [BitVec.toNat_append, ← Nat.shiftLeft_add_eq_or_of_lt second.isLt]

/-- A byte with the marker of bytes inside a group in front of six bits. -/
theorem continuation_bits (low : BitVec 6) :
    isContinuation ⟨0b10#2 ++ low⟩ = true ∧ payload ⟨0b10#2 ++ low⟩ = low.toNat := by
  have byte : (⟨0b10#2 ++ low⟩ : UInt8).toNat = 0x80 + low.toNat := toNat_append 0b10#2 low
  have small := low.isLt
  rw [isContinuation_iff, payload, byte]
  omega

theorem units_group_append {group : List UInt8} {unit : UInt16} (grouped : Group group unit)
    (rest : List UInt8) : units (group ++ rest) = (unit :: ·) <$> units rest := by
  cases grouped with
  | one low nonzero =>
    have byte : (⟨0b0#1 ++ low⟩ : UInt8).toNat = 0 + low.toNat := toNat_append 0b0#1 low
    have same : (⟨0#9 ++ low⟩ : UInt16).toNat = 0 + low.toNat := toNat_append 0#9 low
    have positive : low.toNat ≠ 0 := fun zero => nonzero (BitVec.eq_of_toNat_eq zero)
    have small := low.isLt
    rw [List.singleton_append, units_of_one rest (by omega) (by omega), byte, ← same,
      UInt16.ofNat_toNat]
  | two high low =>
    have first : (⟨0b110#3 ++ high⟩ : UInt8).toNat = 0xC0 + high.toNat :=
      toNat_append 0b110#3 high
    have same : (⟨0#5 ++ high ++ low⟩ : UInt16).toNat = high.toNat * 64 + low.toNat := by
      rw [UInt16.toNat_ofBitVec, toNat_append, toNat_append]
      simp [Nat.shiftLeft_eq]
    obtain ⟨continued, ended⟩ := continuation_bits low
    have small := high.isLt
    have bits : (0xC0 + high.toNat) % 32 = high.toNat := by omega
    rw [List.cons_append, List.singleton_append,
      units_of_two rest (by omega) (by omega) continued, first, ended, bits, ← same,
      UInt16.ofNat_toNat]
  | three high middle low =>
    have first : (⟨0b1110#4 ++ high⟩ : UInt8).toNat = 0xE0 + high.toNat :=
      toNat_append 0b1110#4 high
    have same : (⟨high ++ middle ++ low⟩ : UInt16).toNat =
        high.toNat * 4096 + middle.toNat * 64 + low.toNat := by
      rw [UInt16.toNat_ofBitVec, toNat_append, toNat_append]
      omega
    obtain ⟨continued, second⟩ := continuation_bits middle
    obtain ⟨ended, third⟩ := continuation_bits low
    have small := high.isLt
    have bits : (0xE0 + high.toNat) % 16 = high.toNat := by omega
    rw [List.cons_append, List.cons_append, List.singleton_append,
      units_of_three rest (by omega) (by omega) continued ended, first, second, third, bits,
      ← same, UInt16.ofNat_toNat]

theorem exists_continuation {byte : UInt8} (continued : isContinuation byte = true) :
    ∃ low : BitVec 6, byte = ⟨0b10#2 ++ low⟩ := by
  obtain ⟨least, most⟩ := isContinuation_iff.mp continued
  have whole : (⟨0b10#2 ++ BitVec.ofNat 6 byte.toNat⟩ : UInt8).toNat = 0x80 + byte.toNat % 64 :=
    toNat_append 0b10#2 (BitVec.ofNat 6 byte.toNat)
  exact ⟨BitVec.ofNat 6 byte.toNat, UInt8.toNat_inj.mp (by omega)⟩

section Leads

variable {first second third : UInt8}

theorem exists_group_of_one (one : (0x01 ≤ first && first < 0x80) = true) :
    ∃ unit, Group [first] unit := by
  obtain ⟨least, most⟩ : 0x01 ≤ first.toNat ∧ first.toNat < 0x80 := starts_iff.mp one
  have bits : (⟨0b0#1 ++ BitVec.ofNat 7 first.toNat⟩ : UInt8).toNat = 0 + first.toNat % 128 :=
    toNat_append 0b0#1 (BitVec.ofNat 7 first.toNat)
  have same : first = ⟨0b0#1 ++ BitVec.ofNat 7 first.toNat⟩ := UInt8.toNat_inj.mp (by omega)
  have nonzero : BitVec.ofNat 7 first.toNat ≠ 0#7 := by
    intro zero
    have low : (BitVec.ofNat 7 first.toNat).toNat = first.toNat % 128 := BitVec.toNat_ofNat ..
    rw [zero, BitVec.toNat_zero] at low
    omega
  rw [same]
  exact ⟨_, .one _ nonzero⟩

theorem exists_group_of_two (two : (0xC0 ≤ first && first < 0xE0) = true)
    (continued : isContinuation second = true) : ∃ unit, Group [first, second] unit := by
  obtain ⟨least, most⟩ : 0xC0 ≤ first.toNat ∧ first.toNat < 0xE0 := starts_iff.mp two
  have bits : (⟨0b110#3 ++ BitVec.ofNat 5 first.toNat⟩ : UInt8).toNat =
      0xC0 + first.toNat % 32 := toNat_append 0b110#3 (BitVec.ofNat 5 first.toNat)
  have same : first = ⟨0b110#3 ++ BitVec.ofNat 5 first.toNat⟩ := UInt8.toNat_inj.mp (by omega)
  obtain ⟨low, rfl⟩ := exists_continuation continued
  rw [same]
  exact ⟨_, .two _ low⟩

theorem exists_group_of_three (three : (0xE0 ≤ first && first < 0xF0) = true)
    (continued : isContinuation second = true) (ended : isContinuation third = true) :
    ∃ unit, Group [first, second, third] unit := by
  obtain ⟨least, most⟩ : 0xE0 ≤ first.toNat ∧ first.toNat < 0xF0 := starts_iff.mp three
  have bits : (⟨0b1110#4 ++ BitVec.ofNat 4 first.toNat⟩ : UInt8).toNat =
      0xE0 + first.toNat % 16 := toNat_append 0b1110#4 (BitVec.ofNat 4 first.toNat)
  have same : first = ⟨0b1110#4 ++ BitVec.ofNat 4 first.toNat⟩ := UInt8.toNat_inj.mp (by omega)
  obtain ⟨middle, rfl⟩ := exists_continuation continued
  obtain ⟨low, rfl⟩ := exists_continuation ended
  rw [same]
  exact ⟨_, .three _ middle low⟩

end Leads

/-- A group in front of bytes that are groups. -/
theorem groups_of_group {group rest : List UInt8} {list : List UInt16}
    (grouped : ∃ unit, Group group unit) (split : units (group ++ rest) = some list)
    (further : ∀ {others}, units rest = some others → Groups rest others) :
    Groups (group ++ rest) list := by
  obtain ⟨unit, grouped⟩ := grouped
  rw [units_group_append grouped, Option.map_eq_map, Option.map_eq_some_iff] at split
  obtain ⟨others, rest, rfl⟩ := split
  exact .cons grouped (further rest)

theorem groups_of_units {bytes : List UInt8} {list : List UInt16}
    (split : units bytes = some list) : Groups bytes list := by
  induction bytes using units.induct generalizing list with
  | case1 =>
    cases split
    exact .nil
  | case2 first rest one ih => exact groups_of_group (exists_group_of_one one) split ih
  | case3 first notOne two second rest continued ih =>
    exact groups_of_group (exists_group_of_two two continued) split ih
  | case4 first notOne two second rest ended =>
    rw [units.eq_def] at split
    simp [notOne, two, ended] at split
  | case5 first notOne two =>
    rw [units.eq_def] at split
    simp [notOne, two] at split
  | case6 first notOne notTwo three second third rest continued ih =>
    obtain ⟨continued, ended⟩ := Bool.and_eq_true_iff.mp continued
    exact groups_of_group (exists_group_of_three three continued ended) split ih
  | case7 first notOne notTwo three second third rest ended =>
    rw [units.eq_def] at split
    simp [notOne, notTwo, three, ended] at split
  | case8 first rest notOne notTwo three short =>
    rw [units.eq_def] at split
    simp [notOne, notTwo, three] at split
  | case9 first rest notOne notTwo notThree =>
    rw [units.eq_def] at split
    simp [notOne, notTwo, notThree] at split

theorem units_eq_some_iff {bytes : List UInt8} {list : List UInt16} :
    units bytes = some list ↔ Groups bytes list := by
  refine ⟨groups_of_units, fun groups => ?_⟩
  induction groups with
  | nil => rfl
  | cons grouped _ ih =>
    rw [units_group_append grouped, ih, Option.map_eq_map, Option.map_some]

/-- Every surrogate is half of a pair: a low one stands right behind each high one, and nowhere
else. -/
structure Paired (list : List UInt16) : Prop where
  first : list[0]?.any isLowSurrogate = false
  next : ∀ place, list[place + 1]?.any isLowSurrogate = list[place]?.any isHighSurrogate

theorem not_low_of_high {unit : UInt16} (isHigh : isHighSurrogate unit = true) :
    ¬isLowSurrogate unit = true := by
  rw [isHighSurrogate_iff] at isHigh
  rw [isLowSurrogate_iff]
  omega

section Pairs

variable {unit low : UInt16} {rest : List UInt16}

/-- A unit that is no high surrogate goes together with no unit behind it. -/
theorem paired_cons_iff (notHigh : ¬isHighSurrogate unit = true) :
    Paired (unit :: rest) ↔ ¬isLowSurrogate unit = true ∧ Paired rest := by
  rw [Bool.not_eq_true] at notHigh ⊢
  constructor
  · rintro ⟨first, next⟩
    exact ⟨first, (next 0).trans notHigh, fun place => next (place + 1)⟩
  · rintro ⟨notLow, first, next⟩
    refine ⟨notLow, fun place => ?_⟩
    cases place with
    | zero => exact first.trans notHigh.symm
    | succ place => exact next place

theorem paired_pair_iff (isHigh : isHighSurrogate unit = true) (isLow : isLowSurrogate low = true) :
    Paired (unit :: low :: rest) ↔ Paired rest := by
  have notHigh : ¬isHighSurrogate low = true := fun isHigh => not_low_of_high isHigh isLow
  have notLow := not_low_of_high isHigh
  rw [Bool.not_eq_true] at notHigh notLow
  constructor
  · rintro ⟨-, next⟩
    exact ⟨(next 1).trans notHigh, fun place => next (place + 2)⟩
  · rintro ⟨first, next⟩
    refine ⟨notLow, fun place => ?_⟩
    match place with
    | 0 => exact isLow.trans isHigh.symm
    | 1 => exact first.trans notHigh.symm
    | place + 2 => exact next place

theorem not_paired_of_high (isHigh : isHighSurrogate unit = true)
    (alone : ∀ next ∈ rest.head?, ¬isLowSurrogate next = true) : ¬Paired (unit :: rest) := by
  rintro ⟨-, next⟩
  have behind : rest[0]?.any isLowSurrogate = true := (next 0).trans isHigh
  rw [← List.head?_eq_getElem?, Option.any_eq_true] at behind
  obtain ⟨low, first, isLow⟩ := behind
  exact alone low first isLow

end Pairs

theorem exists_characters_iff (list : List UInt16) :
    (∃ text, characters list = some text) ↔ Paired list := by
  rw [← Option.isSome_iff_exists]
  induction list using characters.induct with
  | case1 => exact iff_of_true rfl ⟨rfl, fun place => rfl⟩
  | case2 high isHigh low rest isLow ih =>
    rw [characters_of_pair isHigh isLow, paired_pair_iff isHigh isLow, ← ih]
    simp
  | case3 high isHigh low rest notLow =>
    refine iff_of_false ?_ (not_paired_of_high isHigh (by simpa using notLow))
    rw [characters.eq_def]
    simp [isHigh, notLow]
  | case4 high isHigh =>
    refine iff_of_false ?_ (not_paired_of_high isHigh (by simp))
    simp [characters, isHigh]
  | case5 unit rest notHigh isLow =>
    rw [paired_cons_iff notHigh, characters.eq_def]
    simp [notHigh, isLow]
  | case6 unit rest notHigh notLow ih =>
    rw [paired_cons_iff notHigh, characters_of_scalar notHigh notLow, ← ih]
    simp [notLow]

/-- The 16-bit units of a text. -/
def utf16 (text : String) : List UInt16 :=
  text.toList.flatMap unitsOf

/-- A number within the planes that is no surrogate is the number of a character. -/
theorem toNat_ofNat {number : Nat} (small : number < 0x110000)
    (scalar : number < 0xD800 ∨ 0xE000 ≤ number) : (Char.ofNat number).toNat = number := by
  have valid : number.isValidChar := by
    rcases scalar with below | above
    · exact Or.inl below
    · exact Or.inr ⟨above, small⟩
  rw [Char.ofNat, dif_pos valid]
  rfl

theorem unitsOf_supplementary {high low : UInt16} (isHigh : isHighSurrogate high = true)
    (isLow : isLowSurrogate low = true) : unitsOf (supplementary high low) = [high, low] := by
  have value := toNat_ofNat
    (show 0x10000 + high.toNat % 1024 * 1024 + low.toNat % 1024 < 0x110000 by omega) (by omega)
  obtain ⟨highLeast, highMost⟩ := isHighSurrogate_iff.mp isHigh
  obtain ⟨lowLeast, lowMost⟩ := isLowSurrogate_iff.mp isLow
  have first : 0xD800 + (0x10000 + high.toNat % 1024 * 1024 + low.toNat % 1024 - 0x10000) / 1024 =
      high.toNat := by omega
  have second : 0xDC00 + (0x10000 + high.toNat % 1024 * 1024 + low.toNat % 1024 - 0x10000) % 1024 =
      low.toNat := by omega
  rw [unitsOf, supplementary, value, if_neg (by omega), first, second, UInt16.ofNat_toNat,
    UInt16.ofNat_toNat]

theorem unitsOf_scalar {unit : UInt16} (notHigh : ¬isHighSurrogate unit = true)
    (notLow : ¬isLowSurrogate unit = true) : unitsOf (Char.ofNat unit.toNat) = [unit] := by
  have bound : unit.toNat < 0x10000 := unit.toNat_lt
  rw [isHighSurrogate_iff] at notHigh
  rw [isLowSurrogate_iff] at notLow
  rw [unitsOf, toNat_ofNat (by omega) (by omega), if_pos bound, UInt16.ofNat_toNat]

theorem flatMap_unitsOf_of_characters {list : List UInt16} {text : List Char}
    (read : characters list = some text) : text.flatMap unitsOf = list := by
  induction list using characters.induct generalizing text with
  | case1 =>
    cases read
    rfl
  | case2 high isHigh low rest isLow ih =>
    rw [characters_of_pair isHigh isLow, Option.map_eq_map, Option.map_eq_some_iff] at read
    obtain ⟨others, read, rfl⟩ := read
    rw [List.flatMap_cons, unitsOf_supplementary isHigh isLow, ih read]
    rfl
  | case3 high isHigh low rest notLow =>
    rw [characters.eq_def] at read
    simp [isHigh, notLow] at read
  | case4 high isHigh => simp [characters, isHigh] at read
  | case5 unit rest notHigh isLow =>
    rw [characters.eq_def] at read
    simp [notHigh, isLow] at read
  | case6 unit rest notHigh notLow ih =>
    rw [characters_of_scalar notHigh notLow, Option.map_eq_map, Option.map_eq_some_iff] at read
    obtain ⟨others, read, rfl⟩ := read
    rw [List.flatMap_cons, unitsOf_scalar notHigh notLow, ih read]
    rfl

theorem decode_eq_some_iff {bytes : List UInt8} {text : String} :
    decode bytes = some text ↔ Groups bytes (utf16 text) := by
  rw [← units_eq_some_iff, decode, Option.map_eq_some_iff]
  constructor
  · rintro ⟨found, read, rfl⟩
    obtain ⟨list, split, read⟩ := Option.bind_eq_some_iff.mp read
    rw [split, utf16, String.toList_ofList, flatMap_unitsOf_of_characters read]
  · intro split
    rw [split, Option.bind_some, utf16, characters_flatMap_unitsOf]
    exact ⟨text.toList, rfl, String.ofList_toList⟩

theorem decode_isSome_iff {bytes : List UInt8} :
    (decode bytes).isSome ↔ ∃ list, Groups bytes list ∧ Paired list := by
  simp only [← units_eq_some_iff, ← exists_characters_iff, decode, Option.isSome_map,
    Option.isSome_iff_exists, Option.bind_eq_some_iff]
  constructor
  · rintro ⟨text, list, split, read⟩
    exact ⟨list, split, text, read⟩
  · rintro ⟨list, split, text, read⟩
    exact ⟨text, list, split, read⟩

/-- What follows a decoder goes on with the bytes behind those that it takes. -/
theorem bind_of_decodes {α β : Type} {decoder : Decoder α} {next : α → Decoder β} {first : α}
    {input : List UInt8} (decodes : decoder.Decodes input first) (rest : List UInt8) :
    (decoder >>= next) (input ++ rest) = next first rest := by
  change Except.bind (decoder (input ++ rest)) _ = _
  rw [decodes]
  rfl

/-- A text constant is decoded from the bytes that it counts. -/
theorem text_of_counted {bytes : List UInt8} (short : bytes.length < 65536) (rest : List UInt8) :
    Constant.text (Encoder.u2 (UInt16.ofNat bytes.length) ++ bytes ++ rest) =
      match decode bytes with
      | some text => .ok (text, rest)
      | none => .error .badText := by
  rw [Constant.text, List.append_assoc, bind_of_decodes (Decoder.u2_decodes _),
    UInt16.toNat_ofNat_of_lt' short, bind_of_decodes (Decoder.bytes_decode bytes)]
  cases decode bytes <;> rfl

/-- Bytes are decoded exactly if they split into groups and the units of the groups have every
surrogate paired, and to the text that has these units. Other bytes are refused where a text
constant holds them. In particular the bytes that a text is written with are decoded to it. -/
theorem decode_exact (bytes : List UInt8) :
    ((decode bytes).isSome ↔ ∃ list, Groups bytes list ∧ Paired list) ∧
    (∀ text, decode bytes = some text ↔ Groups bytes (utf16 text)) ∧
    (bytes.length < 65536 → ∀ rest,
      Constant.text (Encoder.u2 (UInt16.ofNat bytes.length) ++ bytes ++ rest) =
        match decode bytes with
        | some text => .ok (text, rest)
        | none => .error .badText) ∧
    ∀ text, decode (encode text) = some text :=
  ⟨decode_isSome_iff, fun _ => decode_eq_some_iff, text_of_counted, decode_encode⟩

/-- A character beyond the first 65536, written with its two surrogates, and the first of them
without the second. -/
theorem decode_exact_surrogates :
    let pair : List UInt8 := [0xED, 0xA0, 0xBD, 0xED, 0xB8, 0x80]
    decode pair = some "😀" ∧ utf16 "😀" = [0xD83D, 0xDE00] ∧
      Constant.text ([0, 6] ++ pair ++ [7]) = .ok ("😀", [7]) ∧
        Constant.text ([0, 3] ++ pair.take 3 ++ [7]) = .error .badText := by
  intro pair
  have groups : Groups pair [0xD83D, 0xDE00] :=
    .cons (.three 0xD#4 0x20#6 0x3D#6) (.cons (.three 0xD#4 0x38#6 0x00#6) .nil)
  have units : utf16 "😀" = [0xD83D, 0xDE00] := by decide
  have decoded : decode pair = some "😀" := by
    rw [(decode_exact pair).2.1, units]
    exact groups
  have whole := (decode_exact pair).2.2.1 (by decide) [7]
  have half := (decode_exact (pair.take 3)).2.2.1 (by decide) [7]
  have unpaired : decode (pair.take 3) = none := by decide
  have six : Encoder.u2 (UInt16.ofNat pair.length) = [0, 6] := by decide
  have three : Encoder.u2 (UInt16.ofNat (pair.take 3).length) = [0, 3] := by decide
  rw [decoded, six] at whole
  rw [unpaired, three] at half
  exact ⟨decoded, units, whole, half⟩

end JvmGenerics.ClassFile.ModifiedUtf8
