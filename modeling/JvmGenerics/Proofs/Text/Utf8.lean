import JvmGenerics.Proofs.Text.Lookahead
import JvmGenerics.Text.Bytes

/-!
# The bytes of a text

A reader that moves through the bytes of a text and stops only behind ASCII bytes and in front
of ASCII delimiters never stops inside a character. And a beginning of the bytes of a text tells
the characters that it holds, up to the one that its last byte begins.
-/

namespace JvmGenerics.Utf8

theorem encode_of_ascii {c : Char} (ascii : c.toNat < 128) :
    String.utf8EncodeChar c = [UInt8.ofNat c.toNat] := by
  have small : c.val.toNat ≤ 127 := Nat.le_of_lt_succ ascii
  simp only [String.utf8EncodeChar, if_pos small, Char.toNat]

theorem encode_of_beyond {c : Char} (beyond : 128 ≤ c.toNat) :
    ∀ byte ∈ String.utf8EncodeChar c, 128 ≤ byte.toNat := by
  have large : ¬c.val.toNat ≤ 127 := Nat.not_le_of_lt beyond
  simp only [String.utf8EncodeChar, if_neg large]
  split
  · simp
    omega
  · split <;> simp <;> omega

/-- An ASCII character is its own byte; every other one begins with a byte beyond ASCII. -/
theorem encode_eq_cons {c : Char} {byte : UInt8} {more : List UInt8}
    (encoded : String.utf8EncodeChar c = byte :: more) :
    c.toNat < 128 ∧ byte.toNat = c.toNat ∨ 128 ≤ c.toNat ∧ 128 ≤ byte.toNat := by
  by_cases ascii : c.toNat < 128
  · rw [encode_of_ascii ascii] at encoded
    obtain ⟨rfl, -⟩ := List.cons.inj encoded
    exact .inl ⟨ascii, by rw [UInt8.toNat_ofNat', Nat.mod_eq_of_lt (by omega)]⟩
  · have beyond := Nat.le_of_not_lt ascii
    exact .inr ⟨beyond, encode_of_beyond beyond byte (encoded ▸ List.mem_cons_self)⟩

theorem eq_of_toNat_eq {c d : Char} (same : c.toNat = d.toNat) : c = d :=
  Char.ext (UInt32.toNat_inj.mp same)

/-- Characters that begin with the same byte are alike. -/
theorem alike_of_encode_eq_cons {c d : Char} {byte : UInt8} {more others : List UInt8}
    (first : String.utf8EncodeChar c = byte :: more)
    (second : String.utf8EncodeChar d = byte :: others) : TextParser.Alike c d := by
  rcases encode_eq_cons first with ⟨_, same⟩ | ⟨beyond, _⟩ <;>
    rcases encode_eq_cons second with ⟨_, alsoSame⟩ | ⟨alsoBeyond, _⟩
  · exact .inl (eq_of_toNat_eq (same.symm.trans alsoSame))
  · omega
  · omega
  · exact .inr ⟨beyond, alsoBeyond⟩

/-- No character begins with the bytes of another one. -/
theorem eq_of_encode_append_eq {c d : Char} {rest others : List UInt8}
    (same : String.utf8EncodeChar c ++ rest = String.utf8EncodeChar d ++ others) : c = d := by
  have decoded (c : Char) (rest : List UInt8) :
      (String.utf8EncodeChar c ++ rest).toByteArray.utf8DecodeChar? 0 = some c := by
    rw [List.toByteArray_append]
    exact ByteArray.utf8DecodeChar?_utf8EncodeChar_append
  exact Option.some.inj ((decoded c rest).symm.trans (same ▸ decoded d others))

def encode (text : List Char) : List UInt8 :=
  text.flatMap String.utf8EncodeChar

theorem bytes_eq (text : String) : bytes text = encode text.toList := by
  rw [bytes, ← String.ofList_toList (s := text), String.toUTF8_eq_toByteArray,
    String.toByteArray_ofList, List.utf8Encode, List.data_toByteArray, String.toList_ofList]
  rfl

theorem length_bytes (text : String) : (bytes text).length = text.utf8ByteSize :=
  rfl

@[simp] theorem encode_append (first second : List Char) :
    encode (first ++ second) = encode first ++ encode second :=
  List.flatMap_append

theorem encode_cons (c : Char) (rest : List Char) :
    encode (c :: rest) = String.utf8EncodeChar c ++ encode rest :=
  rfl

theorem length_le_length_encode (text : List Char) : text.length ≤ (encode text).length := by
  induction text with
  | nil => exact Nat.le_refl 0
  | cons c rest ih =>
    have positive := List.length_pos_iff.mpr (String.utf8EncodeChar_ne_nil (c := c))
    rw [encode_cons, List.length_append, List.length_cons]
    omega

/-- A text that has the bytes of `taken` and after them the first byte of `c` holds the
characters of `taken` and after them a character like `c`. -/
theorem exists_of_prefix {taken : List Char} {c : Char} {byte : UInt8} {more : List UInt8}
    (begins : String.utf8EncodeChar c = byte :: more) {other : List Char}
    (isPrefix : encode taken ++ [byte] <+: encode other) :
    ∃ d rest, other = taken ++ d :: rest ∧ TextParser.Alike c d := by
  obtain ⟨tail, split⟩ := isPrefix
  induction taken generalizing other with
  | nil =>
    cases other with
    | nil => cases split
    | cons d rest =>
      obtain ⟨first, others, encoded⟩ :=
        List.exists_cons_of_ne_nil (String.utf8EncodeChar_ne_nil (c := d))
      rw [encode_cons, encoded] at split
      obtain ⟨rfl, -⟩ := List.cons.inj split
      exact ⟨d, rest, rfl, alike_of_encode_eq_cons begins encoded⟩
  | cons first taken ih =>
    rw [encode_cons, List.append_assoc, List.append_assoc] at split
    cases other with
    | nil =>
      have empty := (List.append_eq_nil_iff.mp split).1
      exact absurd empty String.utf8EncodeChar_ne_nil
    | cons d rest =>
      rw [encode_cons] at split
      obtain rfl := eq_of_encode_append_eq split
      obtain ⟨d, rest, rfl, alike⟩ := ih (by
        rw [List.append_assoc]
        exact List.append_cancel_left split)
      exact ⟨d, rest, rfl, alike⟩

theorem utf8ByteSize_of_split {text : String} {before after : List Char}
    (split : text.toList = before ++ after) :
    text.utf8ByteSize = (encode before).length + (encode after).length := by
  rw [← length_bytes, bytes_eq, split, encode_append, List.length_append]

/-- Texts that agree as far as the first byte behind `taken` both go on alike behind it. -/
theorem exists_startAlike {text other : String} {taken ahead : List Char}
    (split : text.toList = taken ++ ahead) (inside : (encode taken).length < text.utf8ByteSize)
    (same : (bytes other).take ((encode taken).length + 1) =
      (bytes text).take ((encode taken).length + 1)) :
    ∃ tail, other.toList = taken ++ tail ∧ TextParser.StartAlike ahead tail := by
  cases ahead with
  | nil =>
    rw [utf8ByteSize_of_split split] at inside
    exact absurd inside (Nat.lt_irrefl _)
  | cons c rest =>
    obtain ⟨first, more, encoded⟩ :=
      List.exists_cons_of_ne_nil (String.utf8EncodeChar_ne_nil (c := c))
    rw [bytes_eq, bytes_eq, split, encode_append, List.take_length_add_append, encode_cons,
      encoded] at same
    obtain ⟨d, tail, otherSplit, alike⟩ :=
      exists_of_prefix encoded (same ▸ List.take_prefix _ (encode other.toList))
    exact ⟨d :: tail, otherSplit, .goesOn alike rest tail⟩

theorem isValid_of_split {text : String} {before after : List Char}
    (split : text.toList = before ++ after) :
    (String.Pos.Raw.mk (encode before).length).IsValid text := by
  rw [String.Pos.Raw.isValid_iff_exists_append]
  refine ⟨String.ofList before, String.ofList after, ?_, ?_⟩
  · rw [← String.ofList_append, ← split, String.ofList_toList]
  · have size := length_bytes (String.ofList before)
    rw [bytes_eq, String.toList_ofList] at size
    rw [size]
    rfl

/-- What stands between two such places is cut out whole. -/
theorem slice?_eq_some {text : String} {before middle rest : List Char}
    (split : text.toList = before ++ middle ++ rest) :
    slice? text (encode before).length (encode (before ++ middle)).length =
      some (String.ofList middle) := by
  have first : (String.Pos.Raw.mk (encode before).length).IsValid text :=
    isValid_of_split (by rw [split, List.append_assoc])
  have last : (String.Pos.Raw.mk (encode (before ++ middle)).length).IsValid text :=
    isValid_of_split split
  rw [slice?, dif_pos ⟨first, last⟩, Option.some_inj, ← String.toByteArray_inj]
  apply ByteArray.ext
  apply Array.toList_inj.mp
  have whole := bytes_eq text
  have part := bytes_eq (String.ofList middle)
  rw [String.toList_ofList] at part
  rw [split, List.append_assoc, encode_append, encode_append] at whole
  rw [String.toByteArray_extract, ByteArray.data_extract, Array.toList_extract,
    List.extract_eq_take_drop]
  change ((bytes text).drop (encode before).length).take
    ((encode (before ++ middle)).length - (encode before).length) = bytes (String.ofList middle)
  rw [whole, part, List.drop_left, encode_append, List.length_append, Nat.add_sub_cancel_left,
    List.take_left]

section Places

variable {delimits : Char → Bool}

/-- The places in some bytes that a reader can come to which passes over single ASCII bytes and
over names. -/
inductive Cursor (delimits : Char → Bool) (bytes : List UInt8) : Nat → Prop
  | start : Cursor delimits bytes 0
  | token {place : Nat} {byte : UInt8} (found : bytes[place]? = some byte)
      (ascii : byte.toNat < 128) : Cursor delimits bytes place → Cursor delimits bytes (place + 1)
  | name {place : Nat} :
      Cursor delimits bytes place → Cursor delimits bytes (nameEnd delimits bytes place)

theorem toNat_ofUInt8 (byte : UInt8) : (Char.ofUInt8 byte).toNat = byte.toNat := by
  change byte.toUInt32.toNat = byte.toNat
  exact UInt8.toNat_toUInt32 byte

theorem ofUInt8_of_ascii {c : Char} (ascii : c.toNat < 128) :
    Char.ofUInt8 (UInt8.ofNat c.toNat) = c := by
  apply eq_of_toNat_eq
  rw [toNat_ofUInt8, UInt8.toNat_ofNat', Nat.mod_eq_of_lt (by omega)]

theorem map_ofUInt8_encode {text : List Char} (ascii : ∀ c ∈ text, c.toNat < 128) :
    (encode text).map Char.ofUInt8 = text := by
  induction text with
  | nil => rfl
  | cons c rest ih =>
    rw [List.forall_mem_cons] at ascii
    rw [encode_cons, encode_of_ascii ascii.1, List.singleton_append, List.map_cons,
      ofUInt8_of_ascii ascii.1, ih ascii.2]

/-- A byte of a character answers a uniform question as the character does. -/
theorem ofUInt8_of_mem_encode (uniform : TextParser.Uniform delimits) {c : Char} {byte : UInt8}
    (member : byte ∈ String.utf8EncodeChar c) : delimits (.ofUInt8 byte) = delimits c := by
  by_cases ascii : c.toNat < 128
  · rw [encode_of_ascii ascii, List.mem_singleton] at member
    rw [member, ofUInt8_of_ascii ascii]
  · have rejected {c : Char} (beyond : 128 ≤ c.toNat) : delimits c = false := by
      rw [← Bool.not_eq_true]
      exact fun delimiter => Nat.not_lt_of_le beyond (uniform delimiter)
    have beyond := Nat.le_of_not_lt ascii
    have alsoBeyond := encode_of_beyond beyond byte member
    rw [rejected beyond, rejected (by rwa [toNat_ofUInt8])]

/-- A run of bytes is a run of characters where a byte answers as its character does. -/
theorem takeWhile_encode (accepts : Char → Bool)
    (same : ∀ c, ∀ byte ∈ String.utf8EncodeChar c, accepts (.ofUInt8 byte) = accepts c)
    (text : List Char) : (encode text).takeWhile (accepts ∘ Char.ofUInt8) =
      encode (text.takeWhile accepts) := by
  induction text with
  | nil => rfl
  | cons c rest ih =>
    rw [encode_cons]
    cases accepted : accepts c with
    | true =>
      have passes : ∀ byte ∈ String.utf8EncodeChar c, (accepts ∘ Char.ofUInt8) byte = true :=
        fun byte member => (same c byte member).trans accepted
      rw [List.takeWhile_append_of_pos passes, ih]
      simp [accepted, encode_cons]
    | false =>
      obtain ⟨byte, more, encoded⟩ :=
        List.exists_cons_of_ne_nil (String.utf8EncodeChar_ne_nil (c := c))
      have rejected : (accepts ∘ Char.ofUInt8) byte = accepts c :=
        same c byte (encoded ▸ List.mem_cons_self)
      rw [encoded, List.cons_append, List.takeWhile_cons, rejected, List.takeWhile_cons, accepted]
      rfl

/-- The name in front of which the reader stands ends where its characters do. -/
theorem nameEnd_encode (uniform : TextParser.Uniform delimits) (before after : List Char) :
    nameEnd delimits (encode (before ++ after)) (encode before).length =
      (encode (before ++ after.takeWhile fun c => !delimits c)).length := by
  have name : ((encode after).takeWhile fun byte => !delimits (.ofUInt8 byte)) =
      encode (after.takeWhile fun c => !delimits c) :=
    takeWhile_encode (fun c => !delimits c)
      (fun _ _ member => congrArg not (ofUInt8_of_mem_encode uniform member)) after
  rw [nameEnd, encode_append, List.drop_left, name, encode_append, List.length_append]

theorem getElem?_encode_append (before rest : List Char) (c : Char) :
    (encode (before ++ c :: rest))[(encode before).length]? =
      (String.utf8EncodeChar c ++ encode rest).head? := by
  rw [encode_append, List.getElem?_append_right (Nat.le_refl _), Nat.sub_self, encode_cons,
    List.head?_eq_getElem?]

/-- The byte behind some characters looks like the next character. -/
theorem exists_alike (before rest : List Char) (c : Char) :
    ∃ d, (encode (before ++ c :: rest))[(encode before).length]?.map Char.ofUInt8 = some d ∧
      TextParser.Alike c d := by
  obtain ⟨byte, more, encoded⟩ :=
    List.exists_cons_of_ne_nil (String.utf8EncodeChar_ne_nil (c := c))
  rw [getElem?_encode_append, encoded]
  refine ⟨.ofUInt8 byte, rfl, ?_⟩
  rcases encode_eq_cons encoded with ⟨_, same⟩ | ⟨beyond, alsoBeyond⟩
  · exact .inl (eq_of_toNat_eq (by rw [toNat_ofUInt8, same]))
  · exact .inr ⟨beyond, by rwa [toNat_ofUInt8]⟩

/-- A reader only comes to places between two characters. -/
theorem Cursor.exists_split (uniform : TextParser.Uniform delimits) {text : List Char} {place : Nat}
    (cursor : Cursor delimits (encode text) place) :
    ∃ before after, text = before ++ after ∧ (encode before).length = place := by
  induction cursor with
  | start => exact ⟨[], text, rfl, rfl⟩
  | token found ascii _ ih =>
    obtain ⟨before, after, rfl, rfl⟩ := ih
    cases after with
    | nil => simp at found
    | cons c rest =>
      obtain ⟨first, more, encoded⟩ :=
        List.exists_cons_of_ne_nil (String.utf8EncodeChar_ne_nil (c := c))
      rw [getElem?_encode_append, encoded] at found
      obtain rfl := Option.some.inj found
      have small : c.toNat < 128 := by
        rcases encode_eq_cons encoded with ⟨small, -⟩ | ⟨-, beyond⟩ <;> omega
      refine ⟨before ++ [c], rest, by simp, ?_⟩
      rw [encode_append, encode_cons, encode_of_ascii small]
      simp [encode]
  | name _ ih =>
    obtain ⟨before, after, rfl, rfl⟩ := ih
    exact ⟨before ++ after.takeWhile fun c => !delimits c, after.dropWhile fun c => !delimits c,
      by simp, (nameEnd_encode uniform before after).symm⟩

/-- What a predictive parser passes over, a reader of the bytes passes over. -/
theorem Cursor.of_passes (uniform : TextParser.Uniform delimits) {taken rest : List Char}
    (passes : TextParser.Passes delimits taken rest) (before : List Char)
    (cursor : Cursor delimits (encode (before ++ (taken ++ rest))) (encode before).length) :
    Cursor delimits (encode (before ++ (taken ++ rest))) (encode (before ++ taken)).length := by
  induction passes generalizing before with
  | nothing rest => simpa using cursor
  | @token c taken rest ascii _ ih =>
    have encoded := encode_of_ascii ascii
    have found := getElem?_encode_append before (taken ++ rest) c
    rw [encoded] at found
    have further := cursor.token found (by rw [UInt8.toNat_ofNat']; omega)
    have behind : (encode before).length + 1 = (encode (before ++ [c])).length := by
      simp [encoded, encode]
    rw [behind] at further
    simpa using ih (before ++ [c]) (by simpa using further)
  | @name name taken rest whole ended _ ih =>
    have taken : (name ++ (taken ++ rest)).takeWhile (fun c => !delimits c) = name :=
      (TextParser.takeWhile_append_of_all (by simpa using whole) (by simpa using ended)).1
    have further := cursor.name
    rw [nameEnd_encode uniform, List.append_assoc, taken] at further
    simpa using ih (before ++ name) (by simpa using further)

end Places

end JvmGenerics.Utf8
