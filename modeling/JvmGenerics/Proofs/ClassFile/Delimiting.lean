import JvmGenerics.Proofs.ClassFile.Layout

/-!
# Class files delimit themselves

Every part of a class file says how long it is before it begins, so a decoder decides on the
bytes that it has taken and on no others. More bytes behind its input change neither what it
takes nor the fault that it finds; only a decoder that missed bytes may then go on.
-/

namespace JvmGenerics.ClassFile

namespace Decoder

variable {α β : Type} {decoder : Decoder α} {next : α → Decoder β}

/-- With more bytes behind its input, the decoder takes the same ones to the same value, or it
finds the same fault, unless that was the end of the input. -/
structure Incremental (decoder : Decoder α) : Prop where
  takes : ∀ {input value rest}, decoder input = .ok (value, rest) →
    ∀ further, decoder (input ++ further) = .ok (value, rest ++ further)
  fails : ∀ {input error}, decoder input = .error error → error ≠ .unexpectedEnd →
    ∀ further, decoder (input ++ further) = .error error

namespace Incremental

theorem pure (value : α) : Incremental (pure value) where
  takes taken further := by
    obtain ⟨rfl, rfl⟩ := Prod.mk.inj (Except.ok.inj taken)
    rfl
  fails failed := nomatch failed

/-- What is looked up looks at no bytes. -/
theorem lookup (result : Except DecodeError α) : Incremental (liftM result) := by
  cases result with
  | ok value => exact pure value
  | error fault =>
    constructor
    · intro input value rest taken
      cases taken
    · intro input error failed _ further
      obtain rfl := Except.error.inj failed
      rfl

theorem fault (error : DecodeError) : Incremental (throw error : Decoder α) :=
  lookup (.error error)

/-- Two decoders one after the other: the second one finds the further bytes behind what the
first one has left. -/
theorem bind (first : decoder.Incremental) (second : ∀ value, (next value).Incremental) :
    (decoder >>= next).Incremental := by
  have run (input : List UInt8) : (decoder >>= next) input =
      (decoder input).bind fun taken => next taken.1 taken.2 := rfl
  constructor
  · intro input value rest taken further
    rw [run] at taken ⊢
    cases found : decoder input with
    | error error => rw [found] at taken; cases taken
    | ok result =>
      rw [found] at taken
      rw [first.takes found further]
      exact (second result.1).takes taken further
  · intro input error failed isFault further
    rw [run] at failed ⊢
    cases found : decoder input with
    | error earlier =>
      rw [found] at failed
      obtain rfl := Except.error.inj failed
      rw [first.fails found isFault further]
      rfl
    | ok result =>
      rw [found] at failed
      rw [first.takes found further]
      exact (second result.1).fails failed isFault further

theorem bind_pure (first : decoder.Incremental) (transform : α → β) :
    (decoder >>= fun value => Pure.pure (transform value)).Incremental :=
  first.bind fun value => pure (transform value)

end Incremental

theorem u1_incremental : u1.Incremental where
  takes {input _ _} taken further := by
    cases input with
    | nil => cases taken
    | cons byte rest =>
      obtain ⟨rfl, rfl⟩ := Prod.mk.inj (Except.ok.inj taken)
      rfl
  fails {input _} failed isFault := by
    cases input with
    | nil => exact absurd (Except.error.inj failed).symm isFault
    | cons byte rest => cases failed

/-- Two numbers that are read for one value. -/
theorem both_incremental (decodes : decoder.Incremental) (combine : α → α → β) :
    (decoder >>= fun first => decoder >>= fun second =>
      pure (combine first second)).Incremental :=
  decodes.bind fun first => decodes.bind_pure (combine first)

theorem u2_incremental : u2.Incremental :=
  both_incremental u1_incremental _

theorem u4_incremental : u4.Incremental :=
  both_incremental u2_incremental _

theorem u8_incremental : u8.Incremental :=
  both_incremental u4_incremental _

theorem bytes_incremental (count : Nat) : (bytes count).Incremental where
  takes {input _ _} taken further := by
    unfold bytes at taken ⊢
    split at taken
    · cases taken
    · next enough =>
      rw [Nat.not_lt] at enough
      obtain ⟨rfl, rfl⟩ := Prod.mk.inj (Except.ok.inj taken)
      rw [if_neg (by rw [List.length_append]; omega), List.take_append_of_le_length enough,
        List.drop_append_of_le_length enough]
  fails {input _} failed isFault := by
    unfold bytes at failed
    split at failed
    · exact absurd (Except.error.inj failed).symm isFault
    · cases failed

theorem times_incremental (item : decoder.Incremental) (count : Nat) :
    (times decoder count).Incremental := by
  induction count with
  | zero => exact .pure []
  | succ count ih => exact item.bind fun first => ih.bind_pure (first :: ·)

theorem table_incremental (item : decoder.Incremental) : (table decoder).Incremental :=
  u2_incremental.bind fun count => times_incremental item count.toNat

end Decoder

open Decoder

namespace Constant

theorem text_incremental : text.Incremental := by
  refine u2_incremental.bind fun count => (bytes_incremental count.toNat).bind fun info => ?_
  cases ModifiedUtf8.decode info with
  | some content => exact .pure content
  | none => exact .fault .badText

theorem afterTag_incremental (tag : UInt8) : (afterTag tag).Incremental := by
  have number (wrap : UInt16 → Constant) := u2_incremental.bind_pure wrap
  have numbers (wrap : UInt16 → UInt16 → Constant) := both_incremental u2_incremental wrap
  unfold afterTag
  split
  · exact text_incremental.bind_pure utf8
  · exact u4_incremental.bind_pure integer
  · exact u4_incremental.bind_pure float
  · exact u8_incremental.bind_pure long
  · exact u8_incremental.bind_pure double
  · exact number classInfo
  · exact number string
  · exact numbers (memberRef .field)
  · exact numbers (memberRef .method)
  · exact numbers (memberRef .interfaceMethod)
  · exact numbers nameAndType
  · exact u1_incremental.bind fun kind => u2_incremental.bind_pure (methodHandle kind)
  · exact number methodType
  · exact numbers (dynamic false)
  · exact numbers (dynamic true)
  · exact number moduleInfo
  · exact number packageInfo
  · exact .fault (.badTag tag)

theorem decoder_incremental : decoder.Incremental :=
  u1_incremental.bind afterTag_incremental

/-- How many slots are left to fill depends on the constants alone. -/
theorem slots_incremental (count : Nat) : (slots count).Incremental := by
  induction count using slots.induct with
  | case1 => exact .pure []
  | case2 => exact decoder_incremental.bind_pure fun constant => [some constant]
  | case3 count wide narrow =>
    refine decoder_incremental.bind fun first => ?_
    cases first.isWide with
    | true => exact wide.bind_pure fun others => some first :: none :: others
    | false => exact narrow.bind_pure (some first :: ·)

end Constant

theorem ConstantPool.decoder_incremental : ConstantPool.decoder.Incremental :=
  u2_incremental.bind fun count => (Constant.slots_incremental (count.toNat - 1)).bind_pure
    fun slots => ConstantPool.mk (none :: slots).toArray

section Parts

variable (pool : ConstantPool)

/-- The body of an attribute has its own bytes, so further bytes behind it are not its own. -/
theorem Attribute.decoder_incremental (carrier : Carrier) :
    (Attribute.decoder pool carrier).Incremental := by
  refine u2_incremental.bind fun nameIndex => u4_incremental.bind fun length =>
    (bytes_incremental length.toNat).bind fun info =>
      (Incremental.lookup (pool.utf8 nameIndex)).bind fun name => ?_
  cases Attribute.body? pool carrier name with
  | some body => exact .lookup (whole (.malformedAttribute name) body info)
  | none => exact .pure Attribute.unrecognised

theorem Member.decoder_incremental : (Member.decoder pool).Incremental :=
  u2_incremental.bind fun _ =>
    u2_incremental.bind fun nameIndex => (Incremental.lookup (pool.utf8 nameIndex)).bind fun _ =>
      u2_incremental.bind fun index => (Incremental.lookup (pool.utf8 index)).bind fun _ =>
        (table_incremental (Attribute.decoder_incremental pool .member)).bind_pure _

theorem interface_incremental :
    (do pool.className (← u2) : Decoder String).Incremental :=
  u2_incremental.bind fun index => .lookup (pool.className index)

end Parts

/-- A class file is decided upon part by part, from its front. -/
theorem decoder_incremental : decoder.Incremental := by
  refine u4_incremental.bind fun found => ?_
  split
  · exact Incremental.fault (.badMagic found)
  · refine u2_incremental.bind fun _ => u2_incremental.bind fun _ =>
      ConstantPool.decoder_incremental.bind fun pool => u2_incremental.bind fun _ =>
        u2_incremental.bind fun thisClass => (Incremental.lookup (pool.className thisClass)).bind
          fun _ => ?_
    refine u2_incremental.bind fun superclass =>
      (Incremental.lookup (ConstantPool.optional pool.className superclass)).bind fun _ => ?_
    exact (table_incremental (interface_incremental pool)).bind fun _ =>
      (table_incremental (Member.decoder_incremental pool)).bind fun _ =>
        (table_incremental (Member.decoder_incremental pool)).bind fun _ =>
          (table_incremental (Attribute.decoder_incremental pool .wholeClass)).bind_pure _

namespace Decoder

variable {α : Type} {decoder : Decoder α} {surplus : DecodeError} {input : List UInt8}

/-- A decoder that has to use up its input and does so takes the whole of it. -/
theorem eq_ok_of_whole {value : α} (taken : whole surplus decoder input = .ok value) :
    decoder input = .ok (value, []) := by
  unfold whole at taken
  cases found : decoder input with
  | error error => rw [found] at taken; cases taken
  | ok result =>
    rw [found] at taken
    obtain ⟨other, rest⟩ := result
    cases rest with
    | nil => rw [Except.ok.inj taken]
    | cons byte rest => cases taken

theorem whole_of_surplus {value : α} {rest : List UInt8} (left : rest ≠ [])
    (found : decoder input = .ok (value, rest)) :
    whole surplus decoder input = .error surplus := by
  unfold whole
  rw [found]
  cases rest with
  | nil => exact absurd rfl left
  | cons byte rest => rfl

/-- What a decoder has to use up, it does not use up any more when bytes are added. -/
theorem whole_append_of_ok (incremental : decoder.Incremental) {value : α}
    (taken : whole surplus decoder input = .ok value) {further : List UInt8}
    (more : further ≠ []) : whole surplus decoder (input ++ further) = .error surplus :=
  whole_of_surplus more (incremental.takes (eq_ok_of_whole taken) further)

/-- A fault stays the same when bytes are added, unless bytes were missing. -/
theorem whole_append_of_error (incremental : decoder.Incremental) {error : DecodeError}
    (failed : whole surplus decoder input = .error error) (isFault : error ≠ .unexpectedEnd)
    (further : List UInt8) : whole surplus decoder (input ++ further) = .error error := by
  cases found : decoder input with
  | error earlier =>
    rw [whole, found] at failed
    obtain rfl := Except.error.inj failed
    rw [whole, incremental.fails found isFault further]
    rfl
  | ok result =>
    obtain ⟨value, rest⟩ := result
    have left : rest ≠ [] := by
      rintro rfl
      rw [whole, found] at failed
      cases failed
    have same := Except.error.inj ((whole_of_surplus left found).symm.trans failed)
    rw [← same]
    refine whole_of_surplus (fun none => ?_) (incremental.takes found further)
    exact left (List.append_eq_nil_iff.mp none).1

end Decoder

/-- Every beginning of an accepted class file lacks bytes, and whatever goes on behind it is
refused for its trailing bytes. Every other fault than missing bytes is found again however the
input goes on. -/
theorem decode_self_delimiting (input : List UInt8) :
    (∀ file, decode input = .ok file →
      (∀ beginning, beginning <+: input → beginning ≠ input →
        decode beginning = .error .unexpectedEnd) ∧
      ∀ further, further ≠ [] → decode (input ++ further) = .error .trailingBytes) ∧
    ∀ error, decode input = .error error → error ≠ .unexpectedEnd →
      ∀ further, decode (input ++ further) = .error error := by
  refine ⟨fun file accepted => ⟨?_, fun further => whole_append_of_ok decoder_incremental accepted⟩,
    fun error failed isFault => whole_append_of_error decoder_incremental failed isFault⟩
  rintro beginning ⟨missing, rfl⟩ shorter
  have more : missing ≠ [] := by
    rintro rfl
    exact shorter (List.append_nil beginning).symm
  -- Had the beginning been decided upon, the whole input would share its fate.
  cases decided : decode beginning with
  | ok other =>
    have refused := whole_append_of_ok decoder_incremental decided more
    cases accepted.symm.trans refused
  | error error =>
    by_contra isFault
    have refused := whole_append_of_error decoder_incremental decided
      (fun same => isFault (congrArg Except.error same)) missing
    cases accepted.symm.trans refused

/-- The bytes of `Box`, less one and with one more, and bytes that begin with no class file. -/
theorem decode_self_delimiting_box :
    decode Layout.box.encode = .ok Layout.box.meaning ∧
      decode (Layout.box.encode.take 125) = .error .unexpectedEnd ∧
      decode (Layout.box.encode ++ [0]) = .error .trailingBytes ∧
      decode [0xCA, 0xFE, 0xBA, 0xBF] = .error (.badMagic 0xCAFEBABF) ∧
      decode ([0xCA, 0xFE, 0xBA, 0xBF] ++ Layout.box.encode) =
        .error (.badMagic 0xCAFEBABF) := by
  have accepted := (whole_of_decodes .trailingBytes Layout.box.decoder_decodes)
  have refused : decode [0xCA, 0xFE, 0xBA, 0xBF] = .error (.badMagic 0xCAFEBABF) := by decide
  obtain ⟨shorter, longer⟩ := (decode_self_delimiting Layout.box.encode).1 _ accepted
  exact ⟨accepted, shorter _ (List.take_prefix _ _) (by decide +kernel), longer _ (by decide),
    refused, (decode_self_delimiting _).2 _ refused (by decide) _⟩

end JvmGenerics.ClassFile
