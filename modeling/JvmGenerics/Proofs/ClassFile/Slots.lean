import JvmGenerics.ClassFile.Decode
import JvmGenerics.Proofs.ClassFile.Pool
import Mathlib.Data.List.ReduceOption

/-!
# The slots of a constant pool

A constant pool declares how many slots it has, but not how many constants. Constants are read as
long as slots are left, so they cover the slots: every constant begins in one of them, and none
is left over. The constants fill the slots exactly, unless the last one is wide and begins in the
last slot. Such a pool is accepted, and the second half of its last constant is no slot of it.
-/

namespace JvmGenerics.ClassFile

namespace Decoder

variable {α β : Type} {decoder : Decoder α} {next : α → Decoder β} {input rest : List UInt8}

theorem bind_eq_ok_iff {value : β} : (decoder >>= next) input = .ok (value, rest) ↔
    ∃ first between, decoder input = .ok (first, between) ∧
      next first between = .ok (value, rest) := by
  have run : (decoder >>= next) input =
      (decoder input).bind fun taken => next taken.1 taken.2 := rfl
  rw [run]
  cases decoder input with
  | error error => simp [Except.bind]
  | ok taken =>
    obtain ⟨first, between⟩ := taken
    simp only [Except.bind, Except.ok.injEq, Prod.mk.injEq]
    constructor
    · exact fun further => ⟨first, between, ⟨rfl, rfl⟩, further⟩
    · rintro ⟨_, _, ⟨rfl, rfl⟩, further⟩
      exact further

theorem bind_pure_eq_ok_iff {transform : α → β} {value : β} :
    (decoder >>= fun first => pure (transform first)) input = .ok (value, rest) ↔
      ∃ first, decoder input = .ok (first, rest) ∧ transform first = value := by
  rw [bind_eq_ok_iff]
  constructor
  · rintro ⟨first, between, taken, answer⟩
    obtain ⟨rfl, rfl⟩ := Prod.mk.inj (Except.ok.inj answer)
    exact ⟨first, taken, rfl⟩
  · rintro ⟨first, taken, rfl⟩
    exact ⟨first, rest, taken, rfl⟩

theorem times_zero_eq_ok_iff {list : List α} :
    times decoder 0 input = .ok (list, rest) ↔ list = [] ∧ rest = input := by
  have run : times decoder 0 input = .ok ([], input) := rfl
  rw [run, Except.ok.injEq, Prod.mk.injEq, eq_comm, eq_comm (a := input)]

theorem times_succ_eq_ok_iff {count : Nat} {first : α} {others : List α} :
    times decoder (count + 1) input = .ok (first :: others, rest) ↔
      ∃ between, decoder input = .ok (first, between) ∧
        times decoder count between = .ok (others, rest) := by
  rw [times, bind_eq_ok_iff]
  simp only [bind_pure_eq_ok_iff, List.cons.injEq]
  constructor
  · rintro ⟨_, between, taken, _, further, rfl, rfl⟩
    exact ⟨between, taken, further⟩
  · rintro ⟨between, taken, further⟩
    exact ⟨first, between, taken, others, further, rfl, rfl⟩

end Decoder

/-- An entry of lists put together is an entry of one of them, behind all entries of those
before it. -/
theorem getElem?_flatMap_eq_some_iff {α β : Type} {parts : α → List β} {list : List α}
    {index : Nat} {entry : β} : (list.flatMap parts)[index]? = some entry ↔
      ∃ before item after offset, list = before ++ item :: after ∧
        index = (before.flatMap parts).length + offset ∧ (parts item)[offset]? = some entry := by
  constructor
  · intro found
    induction list generalizing index with
    | nil => simp at found
    | cons item others ih =>
      rw [List.flatMap_cons, List.getElem?_append] at found
      split at found
      · exact ⟨[], item, others, index, rfl, (Nat.zero_add index).symm, found⟩
      · next beyond =>
        obtain ⟨before, other, after, offset, rfl, position, found⟩ := ih found
        refine ⟨item :: before, other, after, offset, rfl, ?_, found⟩
        rw [List.flatMap_cons, List.length_append]
        omega
  · rintro ⟨before, item, after, offset, rfl, rfl, found⟩
    have inside : offset < (parts item).length := (List.getElem?_eq_some_iff.mp found).1
    rw [List.flatMap_append, List.flatMap_cons, List.getElem?_append_right (Nat.le_add_right _ _),
      Nat.add_sub_cancel_left, List.getElem?_append_left inside, found]

namespace Constant

open Decoder

variable {constant : Constant} {constants : List Constant} {slots : Nat}

theorem length_filling (constant : Constant) :
    constant.filling.length = if constant.isWide then 2 else 1 := by
  cases width : constant.isWide <;> simp [filling, width]

theorem getElem?_filling_eq_some_iff {offset : Nat} {entry : Option Constant} :
    constant.filling[offset]? = some entry ↔
      (offset = 0 ∧ entry = some constant) ∨ (offset = 1 ∧ constant.isWide ∧ entry = none) := by
  cases width : constant.isWide with
  | false => simp [filling, width, List.getElem?_singleton, eq_comm]
  | true =>
    cases offset with
    | zero => simp [filling, width, eq_comm]
    | succ offset => simp [filling, width, List.getElem?_singleton, eq_comm]

theorem slotCount_append (first second : List Constant) :
    slotCount (first ++ second) = slotCount first + slotCount second := by
  rw [slotCount, List.flatMap_append, List.length_append]
  rfl

theorem slotCount_concat (before : List Constant) (last : Constant) :
    slotCount (before ++ [last]) = slotCount before + if last.isWide then 2 else 1 := by
  rw [slotCount_append, slotCount_cons, length_filling]
  rfl

theorem slotCount_lt_of_split (before after : List Constant) (constant : Constant) :
    slotCount before < slotCount (before ++ constant :: after) := by
  have taken := length_filling constant
  rw [slotCount_append, slotCount_cons]
  split at taken <;> omega

/-- The constant begins in the slot of the given number: the constants before it take all lower
ones, of which the first has the number one. -/
def StartsAt (constants : List Constant) (number : Nat) (constant : Constant) : Prop :=
  ∃ before after, constants = before ++ constant :: after ∧ number = slotCount before + 1

/-- The slot of the given number is the second one of a wide constant. -/
def SecondHalfAt (constants : List Constant) (number : Nat) : Prop :=
  ∃ before wide after, constants = before ++ wide :: after ∧ wide.isWide ∧
    number = slotCount before + 2

/-- The last constant is wide and begins in the last slot below the count, so that its second
half would have the count for its number. -/
def Overhangs (constants : List Constant) (count : Nat) : Prop :=
  ∃ before wide, constants = before ++ [wide] ∧ wide.isWide ∧ count = slotCount before + 2

theorem startsAt_iff {number : Nat} :
    StartsAt constants number constant ↔
      (none :: constants.flatMap filling)[number]? = some (some constant) := by
  cases number with
  | zero => simp [StartsAt]
  | succ index =>
    rw [List.getElem?_cons_succ, getElem?_flatMap_eq_some_iff]
    simp only [getElem?_filling_eq_some_iff, reduceCtorEq, and_false, or_false, Option.some.injEq]
    constructor
    · rintro ⟨before, after, split, position⟩
      exact ⟨before, constant, after, 0, split, Nat.succ.inj position, rfl, rfl⟩
    · rintro ⟨before, _, after, _, split, position, rfl, rfl⟩
      exact ⟨before, after, split, congrArg Nat.succ position⟩

theorem zero_or_secondHalfAt_iff {number : Nat} :
    number = 0 ∨ SecondHalfAt constants number ↔
      (none :: constants.flatMap filling)[number]? = some none := by
  cases number with
  | zero => simp
  | succ index =>
    rw [List.getElem?_cons_succ, getElem?_flatMap_eq_some_iff]
    simp only [getElem?_filling_eq_some_iff, reduceCtorEq, and_false, false_or, and_true,
      Nat.add_one_ne_zero]
    constructor
    · rintro ⟨before, wide, after, split, isWide, position⟩
      exact ⟨before, wide, after, 1, split, Nat.succ.inj position, rfl, isWide⟩
    · rintro ⟨before, wide, after, _, split, position, rfl, isWide⟩
      exact ⟨before, wide, after, split, isWide, congrArg Nat.succ position⟩

/-- Constants cover slots: every constant begins in one of the slots, and no slot is left over. -/
structure Cover (constants : List Constant) (slots : Nat) : Prop where
  begins : ∀ before constant after, constants = before ++ constant :: after →
    slotCount before < slots
  fills : slots ≤ slotCount constants

theorem cover_zero_iff : Cover constants 0 ↔ constants = [] := by
  constructor
  · intro cover
    cases constants with
    | nil => rfl
    | cons constant others => exact absurd (cover.begins [] constant others rfl) (Nat.not_lt_zero _)
  · rintro rfl
    exact ⟨fun before constant after split => by simp at split, Nat.zero_le _⟩

theorem not_cover_nil : ¬Cover [] (slots + 1) :=
  fun cover => Nat.not_succ_le_zero slots cover.fills

/-- The first constant begins in the first slot, and the others cover the slots that it leaves. -/
theorem cover_cons_iff : Cover (constant :: constants) (slots + 1) ↔
    Cover constants (slots + 1 - constant.filling.length) := by
  have behind (before : List Constant) : slotCount (constant :: before) < slots + 1 ↔
      slotCount before < slots + 1 - constant.filling.length := by
    rw [slotCount_cons]
    omega
  constructor
  · rintro ⟨begins, fills⟩
    refine ⟨fun before other after split => ?_, ?_⟩
    · exact (behind before).mp (begins (constant :: before) other after (congrArg _ split))
    · rw [slotCount_cons] at fills
      omega
  · rintro ⟨begins, fills⟩
    refine ⟨fun before other after split => ?_, ?_⟩
    · obtain ⟨rfl, -⟩ | ⟨between, rfl, others⟩ := List.cons_eq_append_iff.mp split
      · exact Nat.succ_pos slots
      · exact (behind between).mpr (begins between other after others)
    · rw [slotCount_cons]
      omega

theorem Cover.of_slotCount_eq (filled : slotCount constants = slots) : Cover constants slots := by
  subst filled
  refine ⟨fun before constant after split => ?_, Nat.le_refl _⟩
  rw [split]
  exact slotCount_lt_of_split before after constant

section Count

variable {count : Nat}

theorem Overhangs.cover (overhangs : Overhangs constants count) : Cover constants (count - 1) := by
  obtain ⟨first, wide, rfl, isWide, rfl⟩ := overhangs
  constructor
  · intro before constant after split
    -- The constant is the last one, or begins before the last one does.
    obtain rfl | ⟨further, last, rfl⟩ := after.eq_nil_or_concat'
    · obtain ⟨rfl, -⟩ := List.append_singleton_inj.mp split
      exact Nat.lt_succ_self _
    · rw [← List.cons_append, ← List.append_assoc] at split
      obtain ⟨rfl, -⟩ := List.append_singleton_inj.mp split
      exact Nat.lt_succ_of_lt (slotCount_lt_of_split before further constant)
  · rw [slotCount_concat, if_pos isWide]
    exact Nat.le_succ _

theorem Overhangs.slotCount_ne (overhangs : Overhangs constants count) :
    slotCount constants ≠ count - 1 := by
  obtain ⟨before, wide, rfl, isWide, rfl⟩ := overhangs
  rw [slotCount_concat, if_pos isWide]
  exact Nat.succ_ne_self _

/-- The last constant begins in a slot, so at most its second half has none. -/
theorem Cover.filled_or_overhangs (cover : Cover constants (count - 1)) :
    slotCount constants = count - 1 ∨ Overhangs constants count := by
  obtain ⟨begins, fills⟩ := cover
  obtain rfl | ⟨before, last, rfl⟩ := constants.eq_nil_or_concat'
  · exact Or.inl (Nat.le_zero.mp fills).symm
  · have inside := begins before last [] rfl
    rw [slotCount_concat] at fills ⊢
    cases width : last.isWide with
    | false =>
      rw [width, if_neg Bool.false_ne_true] at fills
      exact Or.inl (Nat.le_antisymm inside fills)
    | true =>
      rw [width, if_pos rfl] at fills
      obtain filled | short := Nat.lt_or_eq_of_le (Nat.succ_le_of_lt inside)
      · exact Or.inl (Nat.le_antisymm filled fills)
      · exact Or.inr ⟨before, last, rfl, width, by omega⟩

theorem Cover.slotCount_eq_iff (cover : Cover constants (count - 1)) :
    slotCount constants = count - 1 ↔ ¬Overhangs constants count :=
  ⟨fun filled overhangs => overhangs.slotCount_ne filled, cover.filled_or_overhangs.resolve_right⟩

end Count

/-- One constant is read, and then the slots that it leaves are filled. A wide constant in the
last slot leaves none, and loses its second half. -/
theorem slots_succ (count : Nat) : Constant.slots (count + 1) = (do
    let first ← decoder
    let others ← Constant.slots (count + 1 - first.filling.length)
    return first.filling.take (count + 1) ++ others) := by
  cases count with
  | zero =>
    refine bind_congr fun first => ?_
    have allTaken : 0 + 1 - first.filling.length = 0 := by
      rw [length_filling]
      split <;> rfl
    rw [allTaken]
    rfl
  | succ count =>
    refine bind_congr fun first => ?_
    have whole : first.filling.take (count + 2) = first.filling :=
      List.take_of_length_le (by rw [length_filling]; split <;> omega)
    rw [whole, length_filling, filling]
    cases first.isWide <;> rfl

/-- Slots are filled exactly if constants are read that cover them. Of a constant that does not
fit, the slots keep what does. -/
theorem slots_eq_ok_iff {input rest : List UInt8} {count : Nat} {entries : List (Option Constant)} :
    Constant.slots count input = .ok (entries, rest) ↔
      ∃ constants, times decoder constants.length input = .ok (constants, rest) ∧
        Cover constants count ∧ entries = (constants.flatMap filling).take count := by
  induction count using Nat.strongRecOn generalizing input entries with
  | ind count ih =>
    cases count with
    | zero =>
      have run : Constant.slots 0 input = .ok ([], input) := rfl
      rw [run, Except.ok.injEq, Prod.mk.injEq]
      simp only [cover_zero_iff, List.take_zero]
      constructor
      · rintro ⟨rfl, rfl⟩
        exact ⟨[], rfl, rfl, rfl⟩
      · rintro ⟨_, read, rfl, rfl⟩
        exact ⟨rfl, (times_zero_eq_ok_iff.mp read).2.symm⟩
    | succ count =>
      have fewer (first : Constant) : count + 1 - first.filling.length < count + 1 := by
        rw [length_filling]
        split <;> omega
      have further (first : Constant) := @ih _ (fewer first)
      rw [slots_succ, bind_eq_ok_iff]
      simp only [bind_pure_eq_ok_iff, further]
      constructor
      · rintro ⟨first, between, taken, _, ⟨others, read, cover, rfl⟩, rfl⟩
        refine ⟨first :: others, times_succ_eq_ok_iff.mpr ⟨between, taken, read⟩,
          cover_cons_iff.mpr cover, ?_⟩
        rw [List.flatMap_cons, List.take_append]
      · rintro ⟨constants, read, cover, rfl⟩
        cases constants with
        | nil => exact absurd cover not_cover_nil
        | cons first others =>
          obtain ⟨between, taken, read⟩ := times_succ_eq_ok_iff.mp read
          refine ⟨first, between, taken, _, ⟨others, read, cover_cons_iff.mp cover, rfl⟩, ?_⟩
          rw [List.flatMap_cons, List.take_append]

/-- Constants that cover slots lose at most a second half where the slots end. -/
theorem reduceOption_take_filling {count : Nat} (cover : Cover constants count) :
    ((constants.flatMap filling).take count).reduceOption = constants := by
  induction constants generalizing count with
  | nil => simp
  | cons constant others ih =>
    cases count with
    | zero => exact absurd (cover_zero_iff.mp cover) (List.cons_ne_nil _ _)
    | succ count =>
      have first : (constant.filling.take (count + 1)).reduceOption = [constant] := by
        rw [filling, List.take_succ_cons, List.reduceOption_cons_of_some,
          List.cons_eq_cons]
        cases constant.isWide <;> cases count <;> simp
      rw [List.flatMap_cons, List.take_append, List.reduceOption_append, first,
        ih (cover_cons_iff.mp cover)]
      rfl

end Constant

namespace ConstantPool

open Constant

variable {constants : List Constant} {constant : Constant} {slots : Nat} {number : UInt16}

/-- The constants of a pool, in the order of their numbers. -/
def contents (pool : ConstantPool) : List Constant :=
  pool.slots.toList.reduceOption

/-- The pool of so many slots that constants are put into. The number zero names nothing. -/
def ofConstants (constants : List Constant) (slots : Nat) : ConstantPool :=
  ⟨(none :: (constants.flatMap filling).take slots).toArray⟩

theorem contents_ofConstants (cover : Cover constants slots) :
    (ofConstants constants slots).contents = constants := by
  rw [contents, ofConstants, List.toList_toArray, List.reduceOption_cons_of_none,
    reduceOption_take_filling cover]

theorem get_eq_ok_iff {pool : ConstantPool} :
    pool.get number = .ok constant ↔ pool.slots[number.toNat]? = some (some constant) := by
  unfold get
  split
  · next found => rw [found, Except.ok.injEq, Option.some.injEq, Option.some.injEq]
  · next missing => exact iff_of_false nofun (missing constant)

theorem get_eq_error_iff {pool : ConstantPool} : pool.get number = .error (.badIndex number) ↔
    ∀ constant, pool.slots[number.toNat]? ≠ some (some constant) := by
  unfold get
  split
  · next found => exact iff_of_false nofun fun missing => missing _ found
  · next missing => exact iff_of_true rfl missing

theorem slot_ofConstants (constants : List Constant) (slots index : Nat) :
    (ofConstants constants slots).slots[index]? =
      if index ≤ slots then (none :: constants.flatMap filling)[index]? else none := by
  rw [ofConstants, List.getElem?_toArray, ← List.take_succ_cons, List.getElem?_take]
  simp only [Nat.lt_succ_iff]

/-- What begins in a slot of its own is found under the number of that slot. -/
theorem get_ofConstants_eq_ok_iff (cover : Cover constants slots) :
    (ofConstants constants slots).get number = .ok constant ↔
      StartsAt constants number.toNat constant := by
  rw [get_eq_ok_iff, slot_ofConstants, startsAt_iff]
  split
  · exact Iff.rfl
  · next beyond =>
    refine iff_of_false nofun fun found => beyond ?_
    obtain ⟨before, after, split, position⟩ := startsAt_iff.mpr found
    exact position ▸ cover.begins before constant after split

/-- Only zero, the second halves of constants and the numbers behind the slots name nothing. -/
theorem get_ofConstants_eq_error_iff (cover : Cover constants slots) :
    (ofConstants constants slots).get number = .error (.badIndex number) ↔
      number = 0 ∨ SecondHalfAt constants number.toNat ∨ slots < number.toNat := by
  have zero : number = 0 ↔ number.toNat = 0 := UInt16.toNat_inj.symm
  rw [get_eq_error_iff, slot_ofConstants, ← or_assoc, zero, zero_or_secondHalfAt_iff]
  split
  · next inside =>
    have within : number.toNat < (none :: constants.flatMap filling).length :=
      Nat.lt_succ_of_le (Nat.le_trans inside cover.fills)
    rw [List.getElem?_eq_getElem within]
    cases (none :: constants.flatMap filling)[number.toNat] with
    | none => simp
    | some constant => simpa using inside
  · next beyond => exact iff_of_true nofun (Or.inr (Nat.lt_of_not_le beyond))

/-- A pool is read exactly if constants are read that cover the slots that it declares. -/
theorem decoder_eq_ok_iff {input body rest : List UInt8} {count : UInt16} {pool : ConstantPool}
    (declared : Decoder.u2 input = .ok (count, body)) :
    decoder input = .ok (pool, rest) ↔ ∃ constants,
      Decoder.times Constant.decoder constants.length body = .ok (constants, rest) ∧
        Cover constants (count.toNat - 1) ∧ pool = ofConstants constants (count.toNat - 1) := by
  rw [decoder, Decoder.bind_eq_ok_iff, declared]
  simp only [Decoder.bind_pure_eq_ok_iff, slots_eq_ok_iff, Except.ok.injEq, Prod.mk.injEq]
  constructor
  · rintro ⟨_, _, ⟨rfl, rfl⟩, _, ⟨constants, read, cover, rfl⟩, rfl⟩
    exact ⟨constants, read, cover, rfl⟩
  · rintro ⟨constants, read, cover, rfl⟩
    exact ⟨count, body, ⟨rfl, rfl⟩, _, ⟨constants, read, cover, rfl⟩, rfl⟩

end ConstantPool

open ConstantPool Constant

/-- A pool that is read holds constants that fill the declared slots exactly, unless the last one
is wide and begins in the last slot: that is the only case in which they do not. The numbers of
the pool name the constants by their slots, and name nothing if they are zero, belong to a
second half or lie behind the slots. Conversely, constants in the bytes that fill the slots, or
overhang them by a second half, are read. -/
theorem slots_exact {input body : List UInt8} {count : UInt16}
    (declared : Decoder.u2 input = .ok (count, body)) (rest : List UInt8) :
    (∀ pool, ConstantPool.decoder input = .ok (pool, rest) →
      Decoder.times Constant.decoder pool.contents.length body = .ok (pool.contents, rest) ∧
      (slotCount pool.contents = count.toNat - 1 ↔ ¬Overhangs pool.contents count.toNat) ∧
      (∀ number constant, pool.get number = .ok constant ↔
        StartsAt pool.contents number.toNat constant) ∧
      ∀ number, pool.get number = .error (.badIndex number) ↔
        number = 0 ∨ SecondHalfAt pool.contents number.toNat ∨ count ≤ number) ∧
    ∀ constants, Decoder.times Constant.decoder constants.length body = .ok (constants, rest) →
      slotCount constants = count.toNat - 1 ∨ Overhangs constants count.toNat →
        ∃ pool, ConstantPool.decoder input = .ok (pool, rest) ∧ pool.contents = constants := by
  constructor
  · intro pool accepted
    obtain ⟨constants, read, cover, rfl⟩ := (decoder_eq_ok_iff declared).mp accepted
    rw [contents_ofConstants cover]
    refine ⟨read, cover.slotCount_eq_iff, fun number constant => get_ofConstants_eq_ok_iff cover,
      fun number => ?_⟩
    rw [get_ofConstants_eq_error_iff cover, UInt16.le_iff_toNat_le]
    refine or_congr_right' fun nonzero => or_congr_right ?_
    have positive : number.toNat ≠ 0 := fun zero => nonzero (UInt16.toNat_inj.mp zero)
    omega
  · intro constants read filled
    have cover := filled.elim Cover.of_slotCount_eq Overhangs.cover
    exact ⟨_, (decoder_eq_ok_iff declared).mpr ⟨constants, read, cover, rfl⟩,
      contents_ofConstants cover⟩

/-- A pool of a `long`, a text and a class: the `long` has two numbers, the others have one. -/
theorem slots_exact_long :
    let body : List UInt8 := [5, 0, 0, 0, 0, 0, 0, 0, 0, 1, 0, 1, 88, 7, 0, 3]
    Decoder.u2 (0 :: 5 :: body) = .ok (5, body) ∧
      ∃ pool, ConstantPool.decoder (0 :: 5 :: body) = .ok (pool, []) ∧
        pool.get 0 = .error (.badIndex 0) ∧ pool.get 1 = .ok (.long 0) ∧
        pool.get 2 = .error (.badIndex 2) ∧ pool.get 3 = .ok (.utf8 "X") ∧
        pool.get 4 = .ok (.classInfo 3) ∧ pool.get 5 = .error (.badIndex 5) := by
  intro body
  have declared : Decoder.u2 (0 :: 5 :: body) = .ok (5, body) := rfl
  obtain ⟨reads, accepts⟩ := slots_exact declared []
  obtain ⟨pool, accepted, contents⟩ :=
    accepts [.long 0, .utf8 "X", .classInfo 3] (by decide) (Or.inl rfl)
  obtain ⟨-, -, names, missing⟩ := reads pool accepted
  rw [contents] at names missing
  exact ⟨declared, pool, accepted, (missing 0).mpr (Or.inl rfl),
    (names 1 _).mpr ⟨[], _, rfl, rfl⟩,
    (missing 2).mpr (Or.inr (Or.inl ⟨[], .long 0, _, rfl, rfl, rfl⟩)),
    (names 3 _).mpr ⟨[.long 0], _, rfl, rfl⟩,
    (names 4 _).mpr ⟨[.long 0, .utf8 "X"], _, rfl, rfl⟩,
    (missing 5).mpr (Or.inr (Or.inr (by decide)))⟩

/-- A pool that declares three slots and takes four, because a `long` begins in the third one. The
pool is read, and so is a class file with this pool. -/
theorem half_long_accepted :
    let pool : List UInt8 := [0, 4, 1, 0, 1, 65, 7, 0, 1, 5, 0, 0, 0, 0, 0, 0, 0, 0]
    let constants : List Constant := [.utf8 "A", .classInfo 1, .long 0]
    Decoder.u2 pool = .ok (4, pool.drop 2) ∧
      Decoder.times Constant.decoder 3 (pool.drop 2) = .ok (constants, []) ∧
      ConstantPool.decoder pool = .ok (ofConstants constants 3, []) ∧
      slotCount constants = 4 ∧
      (decode ([0xCA, 0xFE, 0xBA, 0xBE, 0, 0, 0, 52] ++ pool ++
        [0, 33, 0, 2, 0, 0, 0, 0, 0, 0, 0, 0, 0, 0])).isOk :=
  ⟨rfl, by decide, rfl, rfl, by decide⟩

end JvmGenerics.ClassFile
